import Stencil.Proofs.Layout.Coverage
import Stencil.Proofs.Node.Unread
import Stencil.Proofs.Text.Runs

/-!
# Blocks that are defined twice

The blocks of a stored body are looked for with a list of bodies that are still to be looked at
(`Arena.search`).  Every body below the first one is looked at once, in the order in which the check
of a level lists its blocks, so the search comes to an end and answers what the check does
(`Arena.search_eq`).  As no two nodes of a forest share a body, a name is listed twice exactly when
two nodes stand for blocks of that name (`Arena.not_repeatsBlock`, `Arena.nodup_namesAll`), and each
of them was read from a tag `block` whose arguments give the name (`Derives.block?_iff`).  So the
check fails exactly where a block is defined twice, and no level of a template that was resolved has
such blocks (`Template.checkBlocks_complete`).
-/

set_option autoImplicit false

namespace Stencil

/-- The name that the arguments of a tag `block` give: their first word, or a fixed name if they have
none. -/
inductive IsBlockName (args : List Char) : String → Prop
  | word {front word back : List Char} (h : args = front ++ (word ++ back))
      (hfront : ∀ c ∈ front, ¬ Text.isWord c) (hne : word ≠ []) (hword : ∀ c ∈ word, Text.isWord c)
      (hback : ∀ c ∈ back.head?, ¬ Text.isWord c) : IsBlockName args (String.ofList word)
  | anonymous (h : ∀ c ∈ args, ¬ Text.isWord c) : IsBlockName args "anonymous"

/-- The token that a stored node was read from. -/
def Cell.token : Cell → Token
  | literal t => t
  | output _ t => t
  | tag _ _ t => t

namespace Arena

/-- The name and the token of a node that stands for a block. -/
def named? (a : Arena) (id : NodeId) : Option (String × Token) :=
  (a.cell? id).bind fun c => c.block?.map fun block => (block.1, c.token)

/-- The names and the tokens of the blocks among the nodes of a body. -/
def listed (a : Arena) (b : BodyId) : List (String × Token) :=
  (a.body b).filterMap a.named?

/-- Looks for a block whose name was seen before in some bodies, the first of them next, and in those
below them, of which the last ones are put in front.  There is no answer if that takes more than `n`
bodies. -/
def search (a : Arena) : Nat → List BodyId → List String → Option (Except Error Unit)
  | _, [], _ => some (.ok ())
  | 0, _ :: _, _ => none
  | n + 1, b :: pending, seen =>
    match firstRepeated seen (a.listed b) with
    | some (name, t) => some (.error (.atToken (.duplicateBlock name) t))
    | none =>
      search a n (((a.body b).flatMap a.children).reverse ++ pending)
        (((a.listed b).map Prod.fst).reverse ++ seen)

/-- Two nodes that are reached from a body stand for blocks of one name. -/
def RepeatsBlock (a : Arena) (root : BodyId) : Prop :=
  ∃ id id' x b b', id ≠ id' ∧ a.Below root id ∧ a.Below root id' ∧
    a.block? id = some (x, b) ∧ a.block? id' = some (x, b')

end Arena

section Names

variable {t : Token} {name : String}

/-- The name of a block is the first word of its arguments, or else the fixed one. -/
theorem isBlockName_iff : IsBlockName t.args.toList name ↔ name = blockName t := by
  unfold blockName
  generalize t.args.toList = args
  constructor
  · intro h
    cases h with
    | @word front word back h hfront hne hword hback =>
      subst h
      obtain ⟨c, word, rfl⟩ := List.exists_cons_of_ne_nil hne
      have hhead := hword c (List.mem_cons_self ..)
      have hdrop : (front ++ (c :: word ++ back)).dropWhile (!Text.isWord ·) = c :: word ++ back :=
        (takeWhile_dropWhile_append (by simpa using hfront) (by simp [hhead])).2
      have htake : (c :: word ++ back).takeWhile Text.isWord = c :: word :=
        (takeWhile_dropWhile_append hword (by simpa using hback)).1
      rw [hdrop, htake]
      rfl
    | anonymous h =>
      have hdrop : args.dropWhile (!Text.isWord ·) = [] :=
        List.dropWhile_eq_nil_iff.2 (by simpa using h)
      rw [hdrop]
      rfl
  · rintro rfl
    have hargs := (List.takeWhile_append_dropWhile (p := (!Text.isWord ·)) (l := args)).symm
    have hfront : ∀ c ∈ args.takeWhile (!Text.isWord ·), ¬ Text.isWord c := fun c hc => by
      simpa using List.mem_takeWhile_imp hc
    have hhead := head?_dropWhile (!Text.isWord ·) args
    generalize args.takeWhile (!Text.isWord ·) = front at hargs hfront
    generalize args.dropWhile (!Text.isWord ·) = rest at hargs hhead
    cases rest with
    | nil =>
      rw [List.append_nil] at hargs
      exact .anonymous (hargs ▸ hfront)
    | cons c rest =>
      have hc : Text.isWord c = true := by simpa using hhead c rfl
      have hword : (c :: rest).takeWhile Text.isWord = c :: rest.takeWhile Text.isWord :=
        List.takeWhile_cons_of_pos hc
      have hrest : args = front ++ ((c :: rest).takeWhile Text.isWord ++
          (c :: rest).dropWhile Text.isWord) := by
        rw [List.takeWhile_append_dropWhile]
        exact hargs
      rw [if_neg (by simp [hword])]
      refine .word hrest hfront (by simp [hword]) (fun c hc => List.mem_takeWhile_imp hc) ?_
      intro c hc
      simp [head?_dropWhile Text.isWord _ c hc]

end Names

section Items

variable {t : Token} {head : Head} {close name : String}

/-- A tag that stands alone is no block. -/
theorem SingleTag.no_block (h : SingleTag t head) :
    head.block? = none ∧ t.isTag "block" = false := by
  cases h with
  | layout h | leaveLoop h | nextRound h => exact ⟨rfl, Token.isTag_of_ne h (by simp)⟩
  | assign h ha =>
    obtain ⟨name, value, rfl⟩ := exists_of_assignment ha
    exact ⟨rfl, Token.isTag_of_ne h (by simp)⟩
  | inclusion h ha =>
    obtain ⟨name, params, rfl⟩ := exists_of_inclusionHead ha
    exact ⟨rfl, Token.isTag_of_ne h (by simp)⟩

/-- A tag with a branch for all other cases is no block. -/
theorem ElseTag.no_block (h : ElseTag t head close) :
    head.block? = none ∧ t.isTag "block" = false := by
  cases h with
  | negated h => exact ⟨rfl, Token.isTag_of_ne h (by simp)⟩
  | loop h ha =>
    obtain ⟨l, rfl⟩ := exists_of_loopHead ha
    exact ⟨rfl, Token.isTag_of_ne h (by simp)⟩

/-- A tag whose body is left unread is no block. -/
theorem UnreadTag.no_block {f : List Token → Head} (h : UnreadTag t f close) (ts : List Token) :
    (f ts).block? = none ∧ t.isTag "block" = false := by
  cases h with
  | raw h | comment h => exact ⟨rfl, Token.isTag_of_ne h (by simp)⟩

/-- The items that stand for blocks are those of the tags `block`, under the names that these give. -/
theorem Derives.block?_iff {n : Node} {ts : List Token} (h : Derives (.item n) ts) :
    n.block? = some name ↔ n.token.isTag "block" ∧ name = blockName n.token := by
  have hneither {n : Node} (h : n.block? = none ∧ n.token.isTag "block" = false) :
      n.block? = some name ↔ n.token.isTag "block" ∧ name = blockName n.token := by
    simp [h.1, h.2]
  cases h with
  | literal h | output h => exact hneither ⟨rfl, by simp [Node.token, Token.isTag, h]⟩
  | single h => exact hneither h.no_block
  | choosing h => exact hneither h.no_block
  | conditional h =>
    exact hneither ⟨rfl, Token.isTag_of_ne h.exists_branches.1 (by simp)⟩
  | unread h => exact hneither (h.no_block _)
  | enclosing h =>
    cases h with
    | block h =>
      show some (blockName _) = some name ↔ _
      rw [Option.some.injEq]
      exact ⟨fun heq => ⟨h, heq.symm⟩, fun heq => heq.2.symm⟩
    | capture h => exact hneither ⟨rfl, Token.isTag_of_ne h (by simp)⟩

end Items

namespace Node

/-- The blocks of bodies are listed from the last body to the first. -/
theorem blocksInBodies_eq (bodies : List (List Node)) :
    blocksInBodies bodies = bodies.reverse.flatMap blocks := by
  induction bodies with
  | nil => rfl
  | cons body rest ih =>
    rw [blocksInBodies, ih, List.reverse_cons, List.flatMap_append, List.flatMap_singleton]
    rfl

/-- The blocks below some nodes are those of their bodies, the last body first. -/
theorem blocksInsideAll_eq (nodes : List Node) :
    blocksInsideAll nodes = (nodes.flatMap bodies).reverse.flatMap blocks := by
  induction nodes with
  | nil => rfl
  | cons n rest ih =>
    have hn : blocksInside n = n.bodies.reverse.flatMap blocks := by
      cases n with
      | literal | output => rfl
      | tag head bodies t => exact blocksInBodies_eq bodies
    rw [blocksInsideAll, ih, hn, List.flatMap_cons, List.reverse_append, List.flatMap_append]

/-- How many bodies there are does not depend on their order. -/
theorem bodyCountInBodies_reverse (bodies : List (List Node)) :
    bodyCountInBodies bodies.reverse = bodyCountInBodies bodies := by
  induction bodies with
  | nil => rfl
  | cons body rest ih =>
    rw [List.reverse_cons, bodyCountInBodies_append, ih]
    simp only [bodyCountInBodies]
    omega

/-- The bodies in nodes are those of the tags among them and what is in these. -/
theorem bodyCountAll_eq (nodes : List Node) :
    bodyCountAll nodes = bodyCountInBodies (nodes.flatMap bodies) := by
  induction nodes with
  | nil => rfl
  | cons n rest ih =>
    have hn : bodyCount n = bodyCountInBodies n.bodies := by
      cases n <;> rfl
    rw [bodyCountAll, ih, hn, List.flatMap_cons, bodyCountInBodies_append]

end Node

section Repeated

/-- What a check answers when it has found a repeated block, or none. -/
def refusal : Option (String × Token) → Except Error Unit
  | none => .ok ()
  | some (name, t) => .error (.atToken (.duplicateBlock name) t)

/-- The check of a level looks for the first block in the list whose name was seen. -/
theorem checkBlocks_eq (nodes : List Node) :
    checkBlocks nodes = refusal (firstRepeated [] (Node.blocks nodes)) := by
  unfold checkBlocks refusal
  split <;> simp [*]

/-- A repeated name in two lists is in the first one, or in the second one behind it. -/
theorem firstRepeated_append (seen : List String) (named more : List (String × Token)) :
    firstRepeated seen (named ++ more) = (firstRepeated seen named).or
      (firstRepeated ((named.map Prod.fst).reverse ++ seen) more) := by
  induction named generalizing seen with
  | nil => rfl
  | cons e rest ih =>
    obtain ⟨x, t⟩ := e
    rw [List.cons_append, firstRepeated, firstRepeated]
    split
    · rfl
    · rw [ih]
      simp

end Repeated

namespace Arena

section Search

variable {a : Arena} {ids : List NodeId} {pending : List BodyId} {nodes : List Node}
  {bodies : List (List Node)} {b : BodyId} {body : List Node}

/-- Some nodes are stored as a body, and each of their blocks has one body. -/
def Stored (a : Arena) (b : BodyId) (body : List Node) : Prop :=
  NodesAt a (a.body b) body ∧ Node.ShapedAll body

/-- Stored bodies are stored one by one. -/
theorem forall₂_stored (hn : BodiesAt a pending bodies) (hs : Node.ShapedInBodies bodies) :
    List.Forall₂ (Stored a) pending bodies := by
  induction bodies generalizing pending with
  | nil =>
    rw [(bodiesAt_nil a pending).1 hn]
    exact .nil
  | cons body rest ih =>
    simp only [BodiesAt] at hn
    obtain ⟨b, others, rfl, hbody, hrest⟩ := hn
    exact .cons ⟨hbody, hs.1⟩ (ih hrest hs.2)

/-- The bodies of stored nodes are stored. -/
theorem forall₂_stored_children (hn : NodesAt a ids nodes) (hs : Node.ShapedAll nodes) :
    List.Forall₂ (Stored a) (ids.flatMap a.children) (nodes.flatMap Node.bodies) := by
  induction nodes generalizing ids with
  | nil =>
    rw [(nodesAt_nil a ids).1 hn]
    exact .nil
  | cons n rest ih =>
    simp only [NodesAt] at hn
    obtain ⟨id, others, rfl, hn, hrest⟩ := hn
    refine List.rel_append ?_ (ih hrest hs.2)
    cases n with
    | literal t | output o t =>
      rw [children_of_cell? hn]
      exact .nil
    | tag head bodies t =>
      obtain ⟨inner, hcell, hbodies⟩ := hn
      rw [children_of_cell? hcell]
      exact forall₂_stored hbodies hs.1.2

/-- The name and the token of a stored block are those of the node. -/
theorem NodeAt.named? {id : NodeId} {n : Node} (hn : NodeAt a id n) (hs : Node.Shaped n) :
    a.named? id = n.block?.map fun name => (name, n.token) := by
  unfold Arena.named?
  cases n with
  | literal t | output o t =>
    rw [show a.cell? id = _ from hn]
    rfl
  | tag head bodies t =>
    obtain ⟨inner, hcell, hbodies⟩ := hn
    rw [hcell]
    cases hhead : head.block? with
    | none => simp [Cell.block?, Node.block?, Node.head?, hhead]
    | some x =>
      obtain ⟨body, rfl⟩ := List.length_eq_one_iff.1 (hs.1 (by simp [hhead]))
      cases inner with
      | nil => simp at hbodies
      | cons b inner => simp [Cell.block?, Cell.token, Node.block?, Node.head?, Node.token, hhead]

/-- A stored node has a cell with its token. -/
theorem NodeAt.exists_cell {id : NodeId} {n : Node} (hn : NodeAt a id n) :
    ∃ c, a.cell? id = some c ∧ c.token = n.token := by
  cases n with
  | literal | output => exact ⟨_, hn, rfl⟩
  | tag =>
    obtain ⟨inner, hcell, -⟩ := hn
    exact ⟨_, hcell, rfl⟩

/-- A stored block has the name of the node. -/
theorem NodeAt.map_fst_block? {id : NodeId} {n : Node} (hn : NodeAt a id n) (hs : Node.Shaped n) :
    (a.block? id).map Prod.fst = n.block? := by
  obtain ⟨c, hcell, -⟩ := hn.exists_cell
  have hnames := congrArg (Option.map Prod.fst) (hn.named? hs)
  simpa [Arena.named?, block?_of_cell? hcell, hcell, Function.comp_def] using hnames

/-- The blocks that are listed for a stored body are those among its nodes. -/
theorem Stored.listed (h : Stored a b body) : a.listed b = Node.directBlocks body := by
  obtain ⟨hn, hs⟩ := h
  unfold Arena.listed
  generalize a.body b = ids at hn
  induction body generalizing ids with
  | nil =>
    rw [(nodesAt_nil a ids).1 hn]
    rfl
  | cons n rest ih =>
    simp only [NodesAt] at hn
    obtain ⟨id, others, rfl, hn, hrest⟩ := hn
    rw [List.filterMap_cons, hn.named? hs.1, Node.directBlocks, List.filterMap_cons,
      ih hs.2 others hrest]
    rfl

/-- A search with room for all bodies answers whether a name is repeated in them. -/
theorem search_eq (h : List.Forall₂ (Stored a) pending bodies) {n : Nat}
    (hn : Node.bodyCountInBodies bodies ≤ n) (seen : List String) :
    a.search n pending seen = some (refusal (firstRepeated seen (bodies.flatMap Node.blocks))) := by
  induction n generalizing pending bodies seen with
  | zero =>
    cases h with
    | nil => rfl
    | cons => simp [Node.bodyCountInBodies] at hn
  | succ n ih =>
    cases h with
    | nil => rfl
    | @cons b body pending bodies hbody hrest =>
      have hblocks : (body :: bodies).flatMap Node.blocks = Node.directBlocks body ++
          ((body.flatMap Node.bodies).reverse ++ bodies).flatMap Node.blocks := by
        rw [List.flatMap_cons, Node.blocks, Node.blocksInsideAll_eq, List.flatMap_append,
          List.append_assoc]
      have hchildren := forall₂_stored_children hbody.1 hbody.2
      have hcount : Node.bodyCountInBodies ((body.flatMap Node.bodies).reverse ++ bodies) ≤ n := by
        rw [Node.bodyCountInBodies, Node.bodyCountAll_eq] at hn
        rw [Node.bodyCountInBodies_append, Node.bodyCountInBodies_reverse]
        omega
      rw [search, hbody.listed, hblocks, firstRepeated_append]
      cases firstRepeated seen (Node.directBlocks body) with
      | some found => rfl
      | none => exact ih (List.rel_append (List.forall₂_reverse_iff.2 hchildren) hrest) hcount _

end Search

section Repeats

variable {a : Arena} {root : BodyId} {nodes : List Node} {v : String × BodyId}

mutual

/-- The blocks of a stored tree are reached from its node. -/
theorem exists_under_of_mem_blocksAt {id : NodeId} {n : Node} (h : v ∈ blocksAt a id n) :
    ∃ id', a.Under id id' ∧ a.block? id' = some v := by
  cases n with
  | literal | output => simp [blocksAt] at h
  | tag head bodies t =>
    simp only [blocksAt, List.mem_append, Option.mem_toList] at h
    rcases h with h | h
    · exact ⟨id, .inl rfl, h⟩
    · obtain ⟨b, hb, id', hid', hblock⟩ := exists_below_of_mem_blocksAtBodies h
      exact ⟨id', .inr ⟨b, hb, hid'⟩, hblock⟩

/-- A block in stored nodes is under one of them. -/
theorem exists_under_of_mem_blocksAtAll {ids : List NodeId} {nodes : List Node}
    (h : v ∈ blocksAtAll a ids nodes) :
    ∃ top ∈ ids, ∃ id', a.Under top id' ∧ a.block? id' = some v := by
  cases nodes with
  | nil => simp [blocksAtAll] at h
  | cons n rest =>
    cases ids with
    | nil => simp [blocksAtAll] at h
    | cons id ids =>
      simp only [blocksAtAll, List.mem_append] at h
      rcases h with h | h
      · exact ⟨id, List.mem_cons_self .., exists_under_of_mem_blocksAt h⟩
      · obtain ⟨top, htop, hunder⟩ := exists_under_of_mem_blocksAtAll h
        exact ⟨top, List.mem_cons_of_mem _ htop, hunder⟩

/-- A block in stored bodies is below one of them. -/
theorem exists_below_of_mem_blocksAtBodies {ids : List BodyId} {bodies : List (List Node)}
    (h : v ∈ blocksAtBodies a ids bodies) :
    ∃ b ∈ ids, ∃ id', a.Below b id' ∧ a.block? id' = some v := by
  cases bodies with
  | nil => simp [blocksAtBodies] at h
  | cons body rest =>
    cases ids with
    | nil => simp [blocksAtBodies] at h
    | cons b ids =>
      simp only [blocksAtBodies, List.mem_append] at h
      rcases h with h | h
      · obtain ⟨top, htop, id', hunder, hblock⟩ := exists_under_of_mem_blocksAtAll h
        exact ⟨b, List.mem_cons_self .., id', .of_under htop hunder, hblock⟩
      · obtain ⟨b', hb', hbelow⟩ := exists_below_of_mem_blocksAtBodies h
        exact ⟨b', List.mem_cons_of_mem _ hb', hbelow⟩

end

/-- The blocks that are reached from stored trees are theirs. -/
theorem mem_blocksAtAll_iff (hn : NodesAt a (a.body root) nodes) :
    v ∈ blocksAtAll a (a.body root) nodes ↔ ∃ id, a.Below root id ∧ a.block? id = some v := by
  constructor
  · intro h
    obtain ⟨top, htop, id, hunder, hblock⟩ := exists_under_of_mem_blocksAtAll h
    exact ⟨id, .of_under htop hunder, hblock⟩
  · rintro ⟨id, hid, hblock⟩
    exact mem_blocksAtAll_of_below hn hid hblock

/-- Where names differ, no two nodes stand for blocks of one name. -/
theorem not_repeatsBlock (ha : Forest a) (hs : Node.ShapedAll nodes)
    (hn : NodesAt a (a.body root) nodes) (hnodup : (Node.namesAll nodes).Nodup) :
    ¬ a.RepeatsBlock root := by
  rintro ⟨id, id', x, b, b', hne, hid, hid', hblock, hblock'⟩
  rw [← map_fst_blocksAtAll hs hn] at hnodup
  have hmem := (mem_blocksAtAll_iff hn).2 ⟨id, hid, hblock⟩
  have hmem' := (mem_blocksAtAll_iff hn).2 ⟨id', hid', hblock'⟩
  -- the blocks of the name are one and the same, and a body belongs to one node
  cases List.inj_on_of_nodup_map hnodup hmem hmem' rfl
  exact hne (ha.owner_unique (ha.mem_children hblock) (ha.mem_children hblock'))

/-- Blocks with bodies of their own have different names unless two nodes stand for blocks of one
name. -/
theorem nodup_namesAll (hs : Node.ShapedAll nodes) (hn : NodesAt a (a.body root) nodes)
    (hapart : ((blocksAtAll a (a.body root) nodes).map Prod.snd).Nodup)
    (hnot : ¬ a.RepeatsBlock root) : (Node.namesAll nodes).Nodup := by
  rw [← map_fst_blocksAtAll hs hn]
  refine List.Nodup.map_on ?_ hapart.of_map
  rintro ⟨x, b⟩ hv ⟨y, b'⟩ hw rfl
  obtain ⟨id, hid, hblock⟩ := (mem_blocksAtAll_iff hn).1 hv
  obtain ⟨id', hid', hblock'⟩ := (mem_blocksAtAll_iff hn).1 hw
  by_cases hsame : id = id'
  · subst hsame
    exact Option.some.inj (hblock.symm.trans hblock')
  · exact absurd ⟨id, id', x, b, b', hsame, hid, hid', hblock, hblock'⟩ hnot

end Repeats

/-- The check of a level that is stored as a body, and what is below the body. -/
structure ChecksBlocks (a : Arena) (root : BodyId) (nodes : List Node) : Prop where
  /-- The search is at its end when it has looked at every body once, and answers what the check
  does. -/
  search_eq : ∀ n, Node.bodyCountAll nodes < n → a.search n [root] [] = some (checkBlocks nodes)
  /-- It fails exactly when two nodes stand for blocks of one name. -/
  error_iff : (∃ e, checkBlocks nodes = .error e) ↔ a.RepeatsBlock root
  /-- The nodes that stand for blocks are those of the tags `block`, whose arguments name them. -/
  block?_iff : ∀ id x, a.Below root id → ((∃ b, a.block? id = some (x, b)) ↔
    ∃ c, a.cell? id = some c ∧ c.token.isTag "block" ∧ IsBlockName c.token.args.toList x)

/-- The search over a stored level is the check of its tree, and it finds just what is there twice.
-/
theorem checksBlocks_storeBody {a : Arena} (ha : Forest a) {tokens : List Token} {nodes : List Node}
    (h : Node.readAll TagKind.builtin tokens = .ok nodes) :
    ChecksBlocks (storeBody nodes a).1 (storeBody nodes a).2 nodes := by
  have hshaped := Node.shapedAll_of_readAll h
  have hstored := storeBody_spec ha hshaped
  refine ⟨?_, ?_, ?_⟩
  · intro n hn
    have hroot : List.Forall₂ (Stored _) [(storeBody nodes a).2] [nodes] :=
      .cons ⟨hstored.nodesAt, hshaped⟩ .nil
    have hcount : Node.bodyCountInBodies [nodes] ≤ n := by
      simp only [Node.bodyCountInBodies]
      omega
    rw [Arena.search_eq hroot hcount, checkBlocks_eq, List.flatMap_singleton]
  · have hfails : (∃ e, checkBlocks nodes = .error e) ↔ ¬ (Node.namesAll nodes).Nodup := by
      rw [← checkBlocks_eq_ok_iff]
      cases checkBlocks nodes with
      | ok | error => simp
    rw [hfails, not_iff_comm]
    exact ⟨nodup_namesAll hshaped hstored.nodesAt hstored.fresh.nodup,
      not_repeatsBlock hstored.forest hshaped hstored.nodesAt⟩
  · intro id x hid
    obtain ⟨n, hn, hin, -⟩ := exists_holds_of_below hstored.nodesAt hid
    obtain ⟨c, hcell, htoken⟩ := hn.exists_cell
    obtain ⟨_, us, _, -, -, hitem⟩ := (Node.derives_of_readAll h).itemOf hin
    have hblock : (∃ b, (storeBody nodes a).1.block? id = some (x, b)) ↔ n.block? = some x := by
      rw [← hn.map_fst_block? (hin.shaped hshaped)]
      simp
    rw [hblock, hitem.block?_iff, ← isBlockName_iff]
    constructor
    · intro hname
      exact ⟨c, hcell, by rwa [htoken]⟩
    · rintro ⟨c', hcell', hname⟩
      cases hcell.symm.trans hcell'
      rwa [htoken] at hname

end Arena

namespace Template

open Arena

/-- The check finds the blocks that are defined twice wherever they stand in a body that was read, and
no level of a template that is resolved has any. -/
theorem checkBlocks_complete :
    (∀ {tokens : List Token} {nodes : List Node} {a : Arena},
      Node.readAll TagKind.builtin tokens = .ok nodes → a.Forest →
        ChecksBlocks (storeBody nodes a).1 (storeBody nodes a).2 nodes) ∧
    ∀ {setup : Setup} {name : Option String} {tokens : List Token} {t : Template},
      (resolve setup name tokens).1 = .ok t → ∃ levels, readChain setup name tokens = .ok levels ∧
        ∀ root ∈ (storeLevels levels {}).2, ¬ (storeLevels levels {}).1.RepeatsBlock root := by
  refine ⟨fun h ha => checksBlocks_storeBody ha h, ?_⟩
  intro setup name tokens t ht
  rw [resolve_eq] at ht
  obtain ⟨levels, hread, -⟩ := ok_of_bind_eq_ok ht
  refine ⟨levels, hread, fun root hroot => ?_⟩
  have hlevels := readChain_spec hread
  have hspec := storeLevels_spec forest_empty hlevels.shaped
  obtain ⟨level, hlevel, -, hnodes⟩ := exists_level_of_mem hspec.levelsAt root hroot
  exact not_repeatsBlock hspec.forest (hlevels.shaped level hlevel) hnodes
    (hlevels.names_nodup level hlevel)

/-- A template that defines a block in a part of a loop, and again deep in a branch that is only
rendered if a condition fails. -/
def hiddenDuplicate : List Token :=
  tokensOf (tagSource "for i in l" ++ tagSource "else" ++ blockSource "x, y" "" ++ tagSource "endfor" ++
    tagSource "if a" ++ tagSource "elsif b" ++ blockSource "y" (tagSource "capture c" ++
      blockSource "-x" "" ++ tagSource "endcapture") ++ tagSource "endif")

/-- A layout that nests two blocks. -/
def nestedNames : Setup :=
  { sources := [("base.liquid", blockSource "a" (blockSource "b" ""))] }

/-- A template that fills both blocks of its layout. -/
def bothNames : List Token :=
  tokensOf (extendsSource "base" (blockSource "b" "" ++ blockSource "a" ""))

/-- A block that is hidden in a branch is found; and blocks that one level nests and another one
does not are no duplicates. -/
theorem checkBlocks_complete_hiddenDuplicate :
    (∃ nodes, Node.readAll TagKind.builtin hiddenDuplicate = .ok nodes ∧ Arena.Forest {} ∧
      (∃ e, checkBlocks nodes = .error e ∧ e.message =
        "block x defined twice near \"\x7b% block x, y %\x7d\", line 1, col 27") ∧
      ChecksBlocks (storeBody nodes {}).1 (storeBody nodes {}).2 nodes) ∧
    ∃ t, (resolve nestedNames none bothNames).1 = .ok t ∧ ∃ levels,
      readChain nestedNames none bothNames = .ok levels ∧
        ∀ root ∈ (storeLevels levels {}).2, ¬ (storeLevels levels {}).1.RepeatsBlock root := by
  have hread : (Node.readAll TagKind.builtin hiddenDuplicate).toOption.map (fun nodes =>
      match checkBlocks nodes with
      | .ok () => none
      | .error e => some e.message) =
        some (some "block x defined twice near \"\x7b% block x, y %\x7d\", line 1, col 27") := by
    decide +kernel
  have hresolve : (resolve nestedNames none bothNames).1.toOption.map
      (fun t => t.arena.cells.size) = some 4 := by
    decide +kernel
  obtain ⟨nodes, hnodes, hmessage⟩ := exists_ok_of_map_toOption hread
  obtain ⟨t, ht, -⟩ := exists_ok_of_map_toOption hresolve
  refine ⟨⟨nodes, hnodes, forest_empty, ?_, checkBlocks_complete.1 hnodes forest_empty⟩, t, ht,
    checkBlocks_complete.2 ht⟩
  cases hcheck : checkBlocks nodes with
  | ok => simp [hcheck] at hmessage
  | error e => exact ⟨e, rfl, by simpa [hcheck] using hmessage⟩

end Template

end Stencil
