import Stencil.Engine
import Stencil.Proofs.Expr.Names
import Stencil.Proofs.Layout.Run
import Stencil.Proofs.Node.Parsing
import Stencil.Proofs.Render.Actions
import Stencil.Proofs.Arena.Depth

/-!
# Templates of built-in tags

What is read with the tags of every engine holds only heads of those tags (`Derives.builtin`).
Storing levels and merging them adds no other heads, and so every template that such an engine reads
is built of them (`Template.builtin_of_parse`).  The templates that its store keeps are, too: that
is so at first, and whatever is done with the engine, short of registering a tag, leaves it so
(`Engine.Builtin`).
-/

set_option autoImplicit false

namespace Stencil

/-- The heads that the tags of every engine have: no factory made them, and what is assigned to is a
name. -/
def Head.Builtin : Head → Prop
  | script _ _ | region _ _ => False
  | assign name _ => Text.isDashedName name.toList = true
  | _ => True

section Heads

variable {t : Token} {head : Head} {close : String}

/-- A tag that stands alone has a head that every engine knows. -/
theorem SingleTag.builtin (h : SingleTag t head) : head.Builtin := by
  cases h with
  | assign _ ha =>
    obtain ⟨name, value, rfl⟩ := exists_of_assignment ha
    exact isDashedName_of_assignment ha
  | inclusion _ ha =>
    obtain ⟨name, params, rfl⟩ := exists_of_inclusionHead ha
    trivial
  | layout | leaveLoop | nextRound => trivial

/-- A tag with one body has a head that every engine knows. -/
theorem BodyTag.builtin (h : BodyTag t head close) : head.Builtin := by
  cases h <;> trivial

/-- A tag with a branch for all other cases has a head that every engine knows. -/
theorem ElseTag.builtin (h : ElseTag t head close) : head.Builtin := by
  cases h with
  | negated => trivial
  | loop _ ha =>
    obtain ⟨l, rfl⟩ := exists_of_loopHead ha
    trivial

/-- A tag whose body is left unread has a head that every engine knows. -/
theorem UnreadTag.builtin {f : List Token → Head} (h : UnreadTag t f close) (ts : List Token) :
    (f ts).Builtin := by
  cases h <;> trivial

end Heads

namespace Node

mutual

/-- A node all of whose tags have the heads of every engine. -/
def Builtin : Node → Prop
  | literal _ => True
  | output _ _ => True
  | tag head bodies _ => head.Builtin ∧ BuiltinInBodies bodies

/-- All of some nodes have no other tags. -/
def BuiltinAll : List Node → Prop
  | [] => True
  | n :: rest => Builtin n ∧ BuiltinAll rest

/-- The nodes of some bodies have no other tags. -/
def BuiltinInBodies : List (List Node) → Prop
  | [] => True
  | body :: rest => BuiltinAll body ∧ BuiltinInBodies rest

end

/-- Two lists of nodes have the heads of every engine if both have. -/
theorem builtinAll_append {l₁ l₂ : List Node} :
    BuiltinAll (l₁ ++ l₂) ↔ BuiltinAll l₁ ∧ BuiltinAll l₂ := by
  induction l₁ with
  | nil => simp [BuiltinAll]
  | cons n rest ih => simp [BuiltinAll, ih, and_assoc]

/-- Two lists of bodies have the heads of every engine if both have. -/
theorem builtinInBodies_append {l₁ l₂ : List (List Node)} :
    BuiltinInBodies (l₁ ++ l₂) ↔ BuiltinInBodies l₁ ∧ BuiltinInBodies l₂ := by
  induction l₁ with
  | nil => simp [BuiltinInBodies]
  | cons body rest ih => simp [BuiltinInBodies, ih, and_assoc]

end Node

/-- What a phrase stands for has the tags of every engine only. -/
def Phrase.Builtin : Phrase → Prop
  | body nodes => Node.BuiltinAll nodes
  | item n => n.Builtin
  | branches _ _ bodies => Node.BuiltinInBodies bodies
  | otherwise bodies => Node.BuiltinInBodies bodies

/-- What the grammar derives has the heads of every engine. -/
theorem Derives.builtin {phrase : Phrase} {ts : List Token} (h : Derives phrase ts) :
    phrase.Builtin := by
  induction h with
  | empty | noElse => trivial
  | literal | output => trivial
  | snoc _ _ ihbody ihitem => exact Node.builtinAll_append.2 ⟨ihbody, ihitem, trivial⟩
  | single h => exact ⟨h.builtin, trivial⟩
  | enclosing h _ _ ih => exact ⟨h.builtin, ih, trivial⟩
  | choosing h _ _ _ ihbody ihelse => exact ⟨h.builtin, ihbody, ihelse⟩
  | conditional _ _ _ ihbranches ihelse =>
    exact ⟨trivial, Node.builtinInBodies_append.2 ⟨ihbranches, ihelse⟩⟩
  | unread h => exact ⟨h.builtin _, trivial⟩
  | first _ _ ih => exact ⟨ih, trivial⟩
  | elsif _ _ _ ihbranches ihbody =>
    exact Node.builtinInBodies_append.2 ⟨ihbranches, ihbody, trivial⟩
  | otherwise _ _ ih => exact ⟨ih, trivial⟩

namespace Arena

/-- All stored tags have the heads of every engine. -/
def Builtin (a : Arena) : Prop :=
  ∀ id head ids t, a.cell? id = some (.tag head ids t) → head.Builtin

/-- Storing a cell adds no other heads than its own. -/
theorem Builtin.alloc {a : Arena} (h : a.Builtin) {c : Cell}
    (hc : ∀ head ids t, c = .tag head ids t → head.Builtin) : (a.alloc c).1.Builtin := by
  intro id head ids t hcell
  rw [cell?_alloc] at hcell
  split at hcell
  · exact hc head ids t (Option.some.inj hcell)
  · exact h id head ids t hcell

mutual

/-- Storing a node adds no other heads than those in it. -/
theorem Builtin.storeNode {a : Arena} (h : a.Builtin) {n : Node} (hn : n.Builtin) :
    (storeNode n a).1.Builtin := by
  cases n with
  | literal t => exact h.alloc (by simp)
  | output o t => exact h.alloc (by simp)
  | tag head bodies t =>
    apply Builtin.alloc (h.storeBodies hn.2)
    rintro _ _ _ ⟨⟩
    exact hn.1

/-- Storing nodes adds no other heads than those in them. -/
theorem Builtin.storeNodes {a : Arena} (h : a.Builtin) {nodes : List Node}
    (hn : Node.BuiltinAll nodes) : (storeNodes nodes a).1.Builtin := by
  cases nodes with
  | nil => exact h
  | cons n rest => exact (h.storeNode hn.1).storeNodes hn.2

/-- Storing bodies adds no other heads than those in them. -/
theorem Builtin.storeBodies {a : Arena} (h : a.Builtin) {bodies : List (List Node)}
    (hn : Node.BuiltinInBodies bodies) : (storeBodies bodies a).1.Builtin := by
  cases bodies with
  | nil => exact h
  | cons body rest =>
    -- a body is stored beside the nodes
    have hbody : (storeBody body a).1.Builtin := h.storeNodes hn.1
    exact hbody.storeBodies hn.2

end

/-- Storing levels adds no other heads than those in them. -/
theorem Builtin.storeLevels {a : Arena} (h : a.Builtin) {levels : List (List Node)}
    (hn : ∀ level ∈ levels, Node.BuiltinAll level) : (Template.storeLevels levels a).1.Builtin := by
  induction levels generalizing a with
  | nil => exact h
  | cons nodes rest ih =>
    have hbody : (storeBody nodes a).1.Builtin := h.storeNodes (hn nodes (List.mem_cons_self ..))
    apply ih hbody
    intro level hlevel
    exact hn level (List.mem_cons_of_mem _ hlevel)

mutual

/-- A node that is stored has heads of the arena. -/
theorem Builtin.node {a : Arena} (ha : a.Builtin) {id : NodeId} {n : Node} (hn : NodeAt a id n) :
    n.Builtin := by
  cases n with
  | literal => trivial
  | output => trivial
  | tag head bodies t =>
    obtain ⟨ids, hcell, hbodies⟩ := hn
    exact ⟨ha id head ids t hcell, ha.bodies hbodies⟩

/-- Nodes that are stored have heads of the arena. -/
theorem Builtin.nodes {a : Arena} (ha : a.Builtin) {ids : List NodeId} {nodes : List Node}
    (hn : NodesAt a ids nodes) : Node.BuiltinAll nodes := by
  cases nodes with
  | nil => trivial
  | cons n rest =>
    obtain ⟨id, others, -, hn, hrest⟩ := hn
    exact ⟨ha.node hn, ha.nodes hrest⟩

/-- Bodies that are stored have heads of the arena. -/
theorem Builtin.bodies {a : Arena} (ha : a.Builtin) {ids : List BodyId}
    {bodies : List (List Node)} (hn : BodiesAt a ids bodies) : Node.BuiltinInBodies bodies := by
  cases bodies with
  | nil => trivial
  | cons body rest =>
    obtain ⟨id, others, -, hbody, hrest⟩ := hn
    exact ⟨ha.nodes hbody, ha.bodies hrest⟩

end

end Arena

namespace Template

open Arena Merging

/-- A template all of whose tags have the heads of every engine. -/
def Builtin (t : Template) : Prop :=
  Node.BuiltinAll t.nodes

/-- Merging levels adds no heads. -/
theorem builtin_of_mergeLevels {levels : List (List Node)} {t : Template}
    (hread : LevelsRead levels) (hlevels : ∀ level ∈ levels, Node.BuiltinAll level)
    (h : mergeLevels levels = .ok t) : t.Builtin := by
  have hstored : (storeLevels levels {}).1.Builtin :=
    Arena.Builtin.storeLevels (by simp [Arena.Builtin, Arena.cell?]) hlevels
  have hbuiltin : t.arena.Builtin := by
    intro id head ids t hcell
    rw [cell?, cells_of_mergeLevels hread h] at hcell
    exact hstored id head ids t hcell
  exact hbuiltin.nodes (nodesAt_of_unfold t.tree?_root)

/-- What is read from a chain of layouts with the tags of every engine is built of them. -/
theorem builtin_of_resolve {setup : Setup} (htags : setup.tags = TagKind.builtin)
    {name : Option String} {tokens : List Token} {t : Template}
    (h : (resolve setup name tokens).1 = .ok t) : t.Builtin := by
  rw [resolve_eq] at h
  obtain ⟨levels, hread, h⟩ := ok_of_bind_eq_ok h
  apply builtin_of_mergeLevels (readChain_spec hread) ?_ h
  obtain ⟨chain, -, -, hread⟩ := exists_chain_of_readChain hread
  intro level hlevel
  obtain ⟨own, -, hnodes, -⟩ := hread level hlevel
  rw [htags] at hnodes
  exact (Node.derives_of_readAll hnodes).builtin

/-- What is read with the tags of every engine is built of them. -/
theorem builtin_of_parse {setup : Setup} (htags : setup.tags = TagKind.builtin)
    {name : Option String} {source : String} {t : Template}
    (h : (parse setup name source).1 = .ok t) : t.Builtin := by
  unfold parse at h
  split at h
  · cases h
  · exact builtin_of_resolve htags h

end Template

/-- Every template that is kept is built of the tags of every engine. -/
def Store.Builtin (s : Store) : Prop :=
  ∀ name issued, Dict.find? name s.cache = some issued → issued.template.Builtin

/-- A store may keep one more template of the tags of every engine. -/
theorem Store.Builtin.keep {s : Store} (h : s.Builtin) {issued : Issued}
    (hissued : issued.template.Builtin) (name : String) : (s.keep name issued).Builtin := by
  intro other kept hkept
  by_cases hname : other = name
  · rw [hname, Store.keep, Dict.find?_insert_self] at hkept
    cases hkept
    exact hissued
  · rw [Store.keep, Dict.find?_insert_of_ne hname] at hkept
    exact h other kept hkept

namespace Loading

/-- Whatever the outcome of an action, the store keeps only templates of the tags of every engine if
it did so before, and a result has the property. -/
def Sound {α : Type} (p : α → Prop) (action : Loading α) : Prop :=
  ∀ s : Store, s.Builtin →
    (action.run.run s).2.Builtin ∧ ∀ x, (action.run.run s).1 = .ok x → p x

section Sound

variable {α β : Type} {p : α → Prop} {q : β → Prop}

/-- A sequence of sound steps is sound. -/
theorem Sound.bind {action : Loading α} {f : α → Loading β} (h : Sound p action)
    (hf : ∀ x, p x → Sound q (f x)) : Sound q (action >>= f) := by
  intro s hs
  obtain ⟨hstore, hresult⟩ := h s hs
  rw [run_bind]
  split
  · next x s' hrun =>
    rw [hrun] at hstore hresult
    exact hf x (hresult x rfl) s' hstore
  · next e s' hrun =>
    rw [hrun] at hstore
    exact ⟨hstore, by simp⟩

/-- Asking for names adds no templates. -/
theorem sound_ask (requests : List Request) : Sound (fun _ => True) (ask requests) :=
  fun _ hs => ⟨hs, fun _ _ => trivial⟩

/-- A result that is given adds no templates. -/
theorem sound_ofExcept {r : Except Error α} (h : ∀ x, r = .ok x → p x) : Sound p (ofExcept r) :=
  fun _ hs => ⟨hs, h⟩

/-- A template that is issued is the one that was read. -/
theorem sound_issue {t : Template} (h : t.Builtin) :
    Sound (fun issued => issued.template.Builtin) (issue t) := by
  intro s hs
  refine ⟨hs, fun issued hissued => ?_⟩
  cases hissued
  exact h

end Sound

end Loading

namespace Setup

open Loading

variable {setup : Setup}

/-- Reading a source with the tags of every engine is sound. -/
theorem sound_parse (htags : setup.tags = TagKind.builtin) (name : Option String)
    (source : String) : Sound Template.Builtin (setup.parse name source) := by
  apply Sound.bind (sound_ask _)
  intro _ _
  apply sound_ofExcept
  intro t ht
  exact Template.builtin_of_parse htags ht

/-- Loading a template with the tags of every engine is sound. -/
theorem sound_load (htags : setup.tags = TagKind.builtin) (name : String) :
    Sound (fun issued => issued.template.Builtin) (setup.load name) := by
  apply Sound.bind (sound_ask _)
  intro _ _
  apply Sound.bind (sound_ofExcept (p := fun _ => True) fun _ _ => trivial)
  intro source _
  apply Sound.bind (sound_parse htags _ _)
  intro t ht
  exact sound_issue ht

/-- Getting a template with the tags of every engine is sound, be it loaded or kept. -/
theorem sound_getTemplate (htags : setup.tags = TagKind.builtin) (name : String) :
    Sound (fun issued => issued.template.Builtin) (setup.getTemplate name) := by
  unfold getTemplate
  dsimp only
  generalize setup.options.resolveName name = name
  split
  · intro s hs
    rw [run_bind, run_get]
    dsimp only
    split
    · next issued hfind =>
      refine ⟨hs, fun x hx => ?_⟩
      cases hx
      exact hs name issued hfind
    · refine Sound.bind (sound_load htags name) (fun issued hissued => ?_) s hs
      intro s hs
      refine ⟨hs.keep hissued name, fun x hx => ?_⟩
      cases hx
      exact hissued
  · exact sound_load htags name

end Setup

namespace Engine

open Loading

/-- An engine to which no kind of tag was added. -/
structure Builtin (e : Engine) : Prop where
  tags : e.setup.tags = TagKind.builtin
  store : e.store.Builtin

variable {e : Engine}

/-- A new engine has no other tags and keeps no templates. -/
theorem builtin_ofSources (options : Options) (sources : Dict String) :
    (ofSources options sources).Builtin :=
  ⟨rfl, fun _ _ h => by simp [ofSources, Dict.find?] at h⟩

/-- A further source adds no tags. -/
theorem Builtin.putSource (h : e.Builtin) (name source : String) :
    (e.putSource name source).Builtin :=
  ⟨h.tags, h.store⟩

/-- A further filter adds no tags. -/
theorem Builtin.registerFilter (h : e.Builtin) {name : String} {filter : Filter} {e' : Engine}
    (he : e.registerFilter name filter = .ok e') : e'.Builtin := by
  obtain ⟨_, -, he⟩ := ok_of_bind_eq_ok he
  cases he
  exact ⟨h.tags, h.store⟩

/-- Using the store of an engine adds no other templates to it. -/
theorem Builtin.use {α : Type} {p : α → Prop} (h : e.Builtin) {action : Loading α}
    (ha : Sound p action) :
    (e.use action).2.Builtin ∧ ∀ x, (e.use action).1 = .ok x → p x := by
  obtain ⟨hstore, hresult⟩ := ha e.store h.store
  exact ⟨⟨h.tags, hstore⟩, hresult⟩

/-- An engine without other tags reads templates of the tags of every engine, and stays so. -/
theorem Builtin.parse (h : e.Builtin) (name : Option String) (source : String) :
    (e.parse name source).2.Builtin ∧
      ∀ issued, (e.parse name source).1 = .ok issued → issued.template.Builtin :=
  h.use ((Setup.sound_parse h.tags name source).bind fun _ ht => sound_issue ht)

/-- An engine without other tags gives out templates of the tags of every engine, and stays so. -/
theorem Builtin.getTemplate (h : e.Builtin) (name : String) :
    (e.getTemplate name).2.Builtin ∧
      ∀ issued, (e.getTemplate name).1 = .ok issued → issued.template.Builtin :=
  h.use (Setup.sound_getTemplate h.tags name)

end Engine

end Stencil
