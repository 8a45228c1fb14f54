import Stencil.Proofs.Arena.WellFormed
import Stencil.Proofs.Node.Settling
import Stencil.Proofs.Render.Coupling

/-!
# Reading tokens into an arena

The nodes of some tokens can be stored while they are read, each tag when it is closed and each body
when the tag behind it is read (`Draft.step`).  This gives what storing the nodes gives that the
reader answers with (`Draft.readInto_eq`).  On the way some nodes stand in no body yet and some
bodies belong to no node yet, and every step keeps them so until it uses them (`Draft.Sound.step`).
So a well-formed arena stays well-formed, whatever tokens are read into it
(`Draft.wellFormed_readInto`).
-/

set_option autoImplicit false

namespace Stencil

namespace Draft

/-- What an open tag waits for, with its complete bodies stored. -/
inductive Awaited where
  | verbatim (close : String) (claimed : List Token)
  | body (head : Head) (complete : List BodyId) (again last : Option String) (close : String)

/-- The complete bodies of an open tag. -/
def Awaited.complete : Awaited → List BodyId
  | verbatim _ _ => []
  | body _ complete _ _ _ => complete

/-- A tag that is not closed yet, with the nodes before it stored. -/
structure Opened where
  opener : Token
  kind : TagKind
  before : List NodeId
  awaited : Awaited

end Draft

/-- An arena that tokens are read into. -/
structure Draft where
  arena : Arena
  /-- The nodes of the innermost sequence. -/
  nodes : List NodeId := []
  /-- The open tags, innermost first. -/
  opened : List Draft.Opened := []

namespace Draft

open Arena

/-- Stores a node of the innermost sequence. -/
def add (d : Draft) (c : Cell) : Draft :=
  { d with arena := (d.arena.alloc c).1, nodes := d.nodes ++ [(d.arena.alloc c).2] }

/-- Opens a tag. -/
def enter (d : Draft) (opener : Token) (kind : TagKind) (awaited : Awaited) : Draft :=
  { d with nodes := [], opened := ⟨opener, kind, d.nodes, awaited⟩ :: d.opened }

/-- Stores a tag that was the innermost open one as a node of the sequence around it. -/
def leave (a : Arena) (o : Opened) (outer : List Opened) (head : Head) (bodies : List BodyId) :
    Draft :=
  ⟨(a.alloc (.tag head bodies o.opener)).1,
    o.before ++ [(a.alloc (.tag head bodies o.opener)).2], outer⟩

/-- Reads a token that does not end anything.  None of the tags of every engine has a factory. -/
def begin (d : Draft) (t : Token) : Except Error Draft :=
  match t.kind with
  | .literal => return d.add (.literal t)
  | .output => return d.add (.output (← ExprFault.inToken t (Output.read t.value)) t)
  | .tag =>
    match Dict.find? t.name TagKind.builtin with
    | none => throw (.atToken (.unknownTag t.name) t)
    | some kind =>
      match kind.form with
      | .single => return d.add (.tag (← kind.head t []) [] t)
      | .verbatim close => return d.enter t kind (.verbatim close [])
      | .body again last close =>
        return d.enter t kind (.body (← kind.head t []) [] again last close)
      | .free _ => throw (.atToken (.unknownTag t.name) t)

/-- Reads the next token. -/
def step (d : Draft) (t : Token) : Except Error Draft :=
  match d.opened with
  | [] => d.begin t
  | o :: outer =>
    match o.awaited with
    | .verbatim close claimed =>
      if t.isTag close then return leave d.arena o outer (← o.kind.head o.opener claimed) []
      else return { d with
        opened := { o with awaited := .verbatim close (claimed ++ [t]) } :: outer }
    | .body head complete again last close =>
      let (a, b) := d.arena.allocBody d.nodes
      if t.isTag close then return leave a o outer head (complete ++ [b])
      else if Progress.isNamed t again then
        return ⟨a, [], { o with
          awaited := .body (← head.again t) (complete ++ [b]) again last close } :: outer⟩
      else if Progress.isNamed t last then
        return ⟨a, [], { o with
          awaited := .body head (complete ++ [b]) none none close } :: outer⟩
      else d.begin t

/-- Stores the body of all that was read. -/
def finish (d : Draft) : Except Error (Arena × BodyId) :=
  match d.opened with
  | [] => return d.arena.allocBody d.nodes
  | o :: _ => throw (.unclosedTag o.opener)

/-- Reads tokens into an arena, and gives the body of what was read. -/
def readInto (a : Arena) (tokens : List Token) : Except Error (Arena × BodyId) := do
  (← tokens.foldlM step { arena := a }).finish

/-! ## What is stored -/

/-- The last of some nodes is stored behind the others. -/
theorem storeNodes_concat (nodes : List Node) (n : Node) (a : Arena) :
    storeNodes (nodes ++ [n]) a = ((storeNode n (storeNodes nodes a).1).1,
      (storeNodes nodes a).2 ++ [(storeNode n (storeNodes nodes a).1).2]) := by
  induction nodes generalizing a with
  | nil => rfl
  | cons first rest ih =>
    rw [List.cons_append, storeNodes, storeNodes]
    dsimp only
    rw [ih]
    rfl

/-- The last of some bodies is stored behind the others. -/
theorem storeBodies_concat (bodies : List (List Node)) (body : List Node) (a : Arena) :
    storeBodies (bodies ++ [body]) a = ((storeBody body (storeBodies bodies a).1).1,
      (storeBodies bodies a).2 ++ [(storeBody body (storeBodies bodies a).1).2]) := by
  induction bodies generalizing a with
  | nil => rfl
  | cons first rest ih =>
    rw [List.cons_append, storeBodies, storeBodies]
    dsimp only
    rw [ih]
    rfl

/-- Open tags that claim bodies, stored in an arena from the outermost one on. -/
inductive DraftsOpened (a : Arena) : List OpenTag → Arena → List Opened → Prop
  | nil : DraftsOpened a [] a []
  | body {outer : List OpenTag} {b : Arena} {opened : List Opened}
      (h : DraftsOpened a outer b opened)
      (opener : Token) (kind : TagKind) (before : List Node) (head : Head)
      (complete : List (List Node)) (again last : Option String) (close : String) :
      DraftsOpened a (⟨opener, kind, before, .body head complete again last close⟩ :: outer)
        (storeBodies complete (storeNodes before b).1).1
        (⟨opener, kind, (storeNodes before b).2,
          .body head (storeBodies complete (storeNodes before b).1).2 again last close⟩ :: opened)

/-- What was read, stored in an arena.  Only the innermost tag can leave tokens unread, and no node
stands behind it. -/
inductive Drafts (a : Arena) : Progress → Draft → Prop
  | reading {opened : List OpenTag} {b : Arena} {opened' : List Opened}
      (h : DraftsOpened a opened b opened') (nodes : List Node) :
      Drafts a ⟨nodes, opened⟩ ⟨(storeNodes nodes b).1, (storeNodes nodes b).2, opened'⟩
  | skipping {outer : List OpenTag} {b : Arena} {opened : List Opened}
      (h : DraftsOpened a outer b opened) (opener : Token) (kind : TagKind) (before : List Node)
      (close : String) (claimed : List Token) :
      Drafts a ⟨[], ⟨opener, kind, before, .verbatim close claimed⟩ :: outer⟩
        ⟨(storeNodes before b).1, [],
          ⟨opener, kind, (storeNodes before b).2, .verbatim close claimed⟩ :: opened⟩

section Drafts

variable {a b : Arena} {opened : List OpenTag} {opened' : List Opened} {p : Progress} {d : Draft}

/-- A node is added to the reader's state and stored in the draft alike. -/
theorem drafts_add (h : DraftsOpened a opened b opened') {n : Node} {c : Cell}
    (hn : ∀ b, storeNode n b = b.alloc c) (nodes : List Node) :
    Drafts a (Progress.add ⟨nodes, opened⟩ n)
      (add ⟨(storeNodes nodes b).1, (storeNodes nodes b).2, opened'⟩ c) := by
  have hadded := Drafts.reading h (nodes ++ [n])
  rw [storeNodes_concat, hn] at hadded
  exact hadded

/-- A tag that is complete is left in the reader's state and in the draft alike. -/
theorem drafts_leave (h : DraftsOpened a opened b opened') (opener : Token) (kind : TagKind)
    (before : List Node) (pending : Pending) (awaited : Awaited) (head : Head)
    (bodies : List (List Node)) :
    Drafts a (Progress.leave ⟨opener, kind, before, pending⟩ opened head bodies)
      (leave (storeBodies bodies (storeNodes before b).1).1
        ⟨opener, kind, (storeNodes before b).2, awaited⟩ opened' head
        (storeBodies bodies (storeNodes before b).1).2) := by
  have hleft := Drafts.reading h (before ++ [.tag head bodies opener])
  rw [storeNodes_concat] at hleft
  exact hleft

/-- What is read begins an item of the reader just as it does of the draft. -/
theorem drafts_begin (h : DraftsOpened a opened b opened') (nodes : List Node) (t : Token) :
    SameOutcome (Drafts a) (Progress.begin TagKind.builtin ⟨nodes, opened⟩ t)
      (begin ⟨(storeNodes nodes b).1, (storeNodes nodes b).2, opened'⟩ t) := by
  unfold Progress.begin begin
  cases htag : t.kind with
  | literal => exact .ok (drafts_add h (fun _ => rfl) nodes)
  | output =>
    cases ExprFault.inToken t (Output.read t.value) with
    | error e => exact .error e
    | ok o => exact .ok (drafts_add h (fun _ => rfl) nodes)
  | tag =>
    dsimp only
    cases hkind : Dict.find? t.name TagKind.builtin with
    | none => exact .error _
    | some kind =>
      dsimp only
      cases hform : kind.form with
      | single =>
        cases kind.head t [] with
        | error e => exact .error e
        | ok head => exact .ok (drafts_add h (fun _ => rfl) nodes)
      | verbatim close => exact .ok (.skipping h t kind nodes close [])
      | body again last close =>
        cases kind.head t [] with
        | error e => exact .error e
        | ok head => exact .ok (.reading (.body h t kind nodes head [] again last close) [])
      | free factory => exact absurd hform (IsBuiltin.form_ne_free ⟨htag, hkind⟩ factory)

/-- No factory reads a tag whose bodies are stored. -/
theorem DraftsOpened.unaided (h : DraftsOpened a opened b opened') : ∀ o ∈ opened, o.Unaided := by
  induction h with
  | nil => simp
  | body _ opener kind before head complete again last close ih =>
    refine List.forall_mem_cons.2 ⟨?_, ih⟩
    rintro _ _ ⟨⟩

/-- No factory reads a tag of what is stored. -/
theorem Drafts.unaided (h : Drafts a p d) : p.Unaided := by
  cases h with
  | reading h nodes => exact h.unaided
  | skipping h opener kind before close claimed =>
    refine List.forall_mem_cons.2 ⟨?_, h.unaided⟩
    rintro _ _ ⟨⟩

/-- The reader and the draft take a token alike. -/
theorem drafts_step (h : Drafts a p d) (t : Token) :
    SameOutcome (Drafts a) (p.step TagKind.builtin t) (d.step t) := by
  rw [Progress.step_of_unaided h.unaided]
  cases h with
  | @reading opened b opened' h nodes =>
    cases h with
    | nil => exact drafts_begin .nil nodes t
    | @body outer b opened h opener kind before head complete again last close =>
      have hbegin := drafts_begin (h.body opener kind before head complete again last close) nodes t
      -- a body that ends is stored behind the complete ones
      have hbodies := storeBodies_concat complete nodes (storeNodes before b).1
      unfold Progress.read step
      dsimp only
      split
      · have hleft := drafts_leave h opener kind before (.body head complete again last close)
          (.body head (storeBodies complete (storeNodes before b).1).2 again last close) head
          (complete ++ [nodes])
        rw [hbodies] at hleft
        exact .ok hleft
      · split
        · cases head.again t with
          | error e => exact .error e
          | ok next =>
            have hnext := h.body opener kind before next (complete ++ [nodes]) again last close
            rw [hbodies] at hnext
            exact .ok (.reading hnext [])
        · split
          · have hnext := h.body opener kind before head (complete ++ [nodes]) none none close
            rw [hbodies] at hnext
            exact .ok (.reading hnext [])
          · exact hbegin
  | @skipping outer b opened h opener kind before close claimed =>
    unfold Progress.read step
    dsimp only
    split
    · cases kind.head opener claimed with
      | error e => exact .error e
      | ok head => exact .ok (drafts_leave h opener kind before _ _ head [])
    · exact .ok (.skipping h opener kind before close (claimed ++ [t]))

/-- A draft and the reader's state stay together over any tokens. -/
theorem drafts_run (h : Drafts a p d) (tokens : List Token) :
    SameOutcome (Drafts a) (tokens.foldlM (Progress.step TagKind.builtin) p)
      (tokens.foldlM step d) := by
  induction tokens generalizing p d with
  | nil => exact .ok h
  | cons t rest ih =>
    rw [List.foldlM_cons, List.foldlM_cons]
    exact (drafts_step h t).bind fun _ _ h => ih h

/-- What was read and its draft end alike. -/
theorem drafts_finish (h : Drafts a p d) :
    (p.finish TagKind.builtin).map (storeBody · a) = d.finish := by
  rw [Progress.finish_of_unaided h.unaided]
  cases h with
  | reading h nodes => cases h <;> rfl
  | skipping => rfl

end Drafts

/-- Storing nodes while they are read gives what storing them afterwards gives. -/
theorem readInto_eq (a : Arena) (tokens : List Token) :
    readInto a tokens = (Node.readAll TagKind.builtin tokens).map (storeBody · a) := by
  have hstart : Drafts a {} { arena := a } := .reading .nil []
  have hrun := drafts_run hstart tokens
  unfold readInto Node.readAll
  generalize tokens.foldlM (Progress.step TagKind.builtin) {} = read at hrun ⊢
  generalize tokens.foldlM step { arena := a } = drafted at hrun ⊢
  cases hrun with
  | error e => rfl
  | ok h => exact (drafts_finish h).symm

/-! ## What stays well-formed -/

/-- The nodes that were read and stand in no body yet, innermost ones first. -/
def loose (d : Draft) : List NodeId :=
  d.nodes ++ d.opened.flatMap Opened.before

/-- The complete bodies of the tags that are not closed yet, innermost ones first. -/
def complete (d : Draft) : List BodyId :=
  d.opened.flatMap fun o => o.awaited.complete

/-- A draft of a well-formed arena, with nodes and bodies that nothing holds yet. -/
def Sound (d : Draft) : Prop :=
  Loose d.arena d.loose d.complete

section Sound

variable {a : Arena} {d e : Draft} {o : Opened} {outer : List Opened}

/-- A node without bodies keeps a draft sound. -/
theorem Sound.add (h : d.Sound) {c : Cell} (hc : c.bodies = []) : (d.add c).Sound := by
  have hstored : Loose (d.arena.alloc c).1 ((d.arena.alloc c).2 :: d.loose) d.complete := by
    apply Loose.alloc
    rw [hc]
    exact h
  refine hstored.perm ?_ (List.Perm.refl _)
  simp only [loose, Draft.add, List.append_assoc]
  exact List.perm_middle.symm

/-- A tag that opens keeps a draft sound. -/
theorem Sound.enter (h : d.Sound) (opener : Token) (kind : TagKind) {awaited : Awaited}
    (hawaited : awaited.complete = []) : (d.enter opener kind awaited).Sound := by
  show Loose d.arena ([] ++ (d.nodes ++ d.opened.flatMap Opened.before))
    (awaited.complete ++ d.complete)
  rw [hawaited]
  exact h

/-- A tag takes bodies that belong to no node, and so the draft stays sound. -/
theorem sound_leave {bodies : List BodyId}
    (h : Loose a (o.before ++ outer.flatMap Opened.before)
      (bodies ++ outer.flatMap fun o => o.awaited.complete)) (head : Head) :
    (leave a o outer head bodies).Sound := by
  have hstored := Loose.alloc (c := .tag head bodies o.opener) h
  refine hstored.perm ?_ (List.Perm.refl _)
  simp only [loose, leave, List.append_assoc]
  exact List.perm_middle.symm

/-- The first look at a token keeps a draft sound. -/
theorem Sound.begin (h : d.Sound) {t : Token} (he : d.begin t = .ok e) : e.Sound := by
  unfold Draft.begin at he
  split at he
  · cases he
    exact h.add rfl
  · obtain ⟨o, -, he⟩ := ok_of_bind_eq_ok he
    cases he
    exact h.add rfl
  · split at he
    · cases he
    · split at he
      · obtain ⟨head, -, he⟩ := ok_of_bind_eq_ok he
        cases he
        exact h.add rfl
      · cases he
        exact h.enter t _ rfl
      · obtain ⟨head, -, he⟩ := ok_of_bind_eq_ok he
        cases he
        exact h.enter t _ rfl
      · cases he

/-- The end of a body is read, and the body waits for its tag to be closed. -/
theorem Sound.allocBody (h : d.Sound) (ho : d.opened = o :: outer) :
    Loose (d.arena.allocBody d.nodes).1 (o.before ++ outer.flatMap Opened.before)
      ((o.awaited.complete ++ [(d.arena.allocBody d.nodes).2]) ++
        outer.flatMap fun o => o.awaited.complete) := by
  have hstored := Loose.allocBody h
  rw [complete, ho] at hstored
  refine hstored.perm (List.Perm.refl _) ?_
  simp only [List.flatMap_cons, List.append_assoc]
  exact List.perm_middle.symm

/-- A token keeps a draft sound. -/
theorem Sound.step (h : d.Sound) {t : Token} (he : d.step t = .ok e) : e.Sound := by
  unfold Draft.step at he
  split at he
  · exact h.begin he
  · next o outer ho =>
    split at he
    · next close claimed hawaited =>
      have hloose : Loose d.arena (d.nodes ++ (o.before ++ outer.flatMap Opened.before))
          (o.awaited.complete ++ outer.flatMap fun o => o.awaited.complete) := by
        have hd := h
        rwa [Sound, loose, complete, ho] at hd
      rw [hawaited] at hloose
      split at he
      · obtain ⟨head, -, he⟩ := ok_of_bind_eq_ok he
        cases he
        exact sound_leave hloose.of_append head
      · cases he
        exact hloose
    · next head complete again last close hawaited =>
      have hstored := h.allocBody ho
      rw [hawaited] at hstored
      dsimp only at he
      split at he
      · cases he
        exact sound_leave hstored head
      · split at he
        · obtain ⟨next, -, he⟩ := ok_of_bind_eq_ok he
          cases he
          exact hstored
        · split at he
          · cases he
            exact hstored
          · exact h.begin he

/-- Tokens keep a draft sound. -/
theorem Sound.run (h : d.Sound) {tokens : List Token} (he : tokens.foldlM Draft.step d = .ok e) :
    e.Sound := by
  induction tokens generalizing d with
  | nil =>
    cases he
    exact h
  | cons t rest ih =>
    rw [List.foldlM_cons] at he
    obtain ⟨next, hnext, he⟩ := ok_of_bind_eq_ok he
    exact ih (h.step hnext) he

/-- A well-formed arena stays so, whatever is read into it, and what is read belongs to no node. -/
theorem wellFormed_readInto (ha : a.WellFormed) {tokens : List Token} {a' : Arena} {root : BodyId}
    (h : readInto a tokens = .ok (a', root)) : a'.WellFormed ∧ FreeBody a' root := by
  obtain ⟨d, hrun, hfinish⟩ := ok_of_bind_eq_ok h
  have hstart : Sound { arena := a } := Loose.of_wellFormed ha
  have hd := hstart.run hrun
  unfold finish at hfinish
  split at hfinish
  · cases hfinish
    have hstored := Loose.allocBody hd
    exact ⟨hstored.wellFormed, hstored.freeBody _ (List.mem_cons_self ..)⟩
  · cases hfinish

end Sound

end Draft

end Stencil
