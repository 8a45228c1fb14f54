import Stencil.Proofs.Render.Log

/-!
# Blocks are rendered once

The text of a block is put into a register when the block completes, and a block whose name has an
entry there is not rendered.  Where no block stands inside another one of its name, the blocks
that are open have no entry (`Rendering.Sound`), and so an entry is made once and stays as it is.
The log of a rendering therefore goes through states of which each has the entries of the one
before it (`Through`): by induction on the nodes (`Node.logged_nodes`), where what a tag enters is
taken in order (`Head.Flows.logged`).  So a block has the text of the first one of its name, and
no node of such a block is evaluated when one of them is complete (`Engine.blocks_once`).
-/

set_option autoImplicit false

namespace Stencil

open Render
open Template (fetch renderIn inclusionBound)

namespace Scope

/-- An entry in a register is one more in the object that it holds. -/
theorem registerObject_insertInRegister (s : Scope) (key name : String) (v : Value) :
    (s.insertInRegister key name v).registerObject key =
      Dict.insert name v (s.registerObject key) := by
  show ((Dict.find? key (Dict.insert key (.object _) s.registers)).bind Value.object?).getD [] = _
  rw [Dict.find?_insert_self]
  rfl

end Scope

namespace Rendering

/-- What the register of blocks has under a name. -/
def kept? (s : Rendering) (x : String) : Option Value :=
  Dict.find? x (s.scope.registerObject blockRegister)

/-- A state has the entries of another one, and maybe more. -/
def Grown (s s' : Rendering) : Prop :=
  ∀ x v, s.kept? x = some v → s'.kept? x = some v

/-- The entries are texts, and blocks of some names, which are open, have none. -/
structure Sound (blocks : List String) (s : Rendering) : Prop where
  texts : ∀ x v, s.kept? x = some v → ∃ text, v = .string text
  unset : ∀ x ∈ blocks, s.kept? x = none

variable {s s' s'' : Rendering} {blocks : List String} {x text : String}

/-- What is kept depends on the registers alone. -/
theorem kept?_of_registers (h : s'.scope.registers = s.scope.registers) :
    s'.kept? = s.kept? := by
  funext y
  unfold kept? Scope.registerObject Scope.register?
  rw [h]

/-- A state has its own entries. -/
theorem Grown.refl (s : Rendering) : s.Grown s :=
  fun _ _ h => h

/-- Entries that were made are there in any later state. -/
theorem Grown.trans (h : s.Grown s') (h' : s'.Grown s'') : s.Grown s'' :=
  fun y v hy => h' y v (h y v hy)

/-- A state with the same registers has the same entries. -/
theorem grown_of_registers (h : s'.scope.registers = s.scope.registers) : s.Grown s' := by
  intro y v hy
  rw [kept?_of_registers h]
  exact hy

/-- A state with the same registers is sound if the other one is. -/
theorem Sound.of_registers (hs : s.Sound blocks) (h : s'.scope.registers = s.scope.registers) :
    s'.Sound blocks := by
  have hentry := kept?_of_registers h
  exact ⟨fun y v => by rw [hentry]; exact hs.texts y v,
    fun y hy => by rw [hentry]; exact hs.unset y hy⟩

/-- An entry without a text is no entry. -/
theorem Sound.kept?_eq_none (hs : s.Sound blocks) (h : (s.kept? x).bind Value.string? = none) :
    s.kept? x = none := by
  cases hentry : s.kept? x with
  | none => rfl
  | some v =>
    obtain ⟨text, rfl⟩ := hs.texts x v hentry
    rw [hentry] at h
    cases h

/-- An entry with a text is this text. -/
theorem kept?_eq_of_string? (h : (s.kept? x).bind Value.string? = some text) :
    s.kept? x = some (.string text) := by
  obtain ⟨v, hentry, hv⟩ := Option.bind_eq_some_iff.1 h
  cases v with
  | string => cases hv; exact hentry
  | _ => cases hv

/-- The state in which a block is complete. -/
def keepText (s : Rendering) (x text : String) : Rendering :=
  s.withScope (Scope.insertInRegister · blockRegister x (.string text))

/-- When a block is complete, its name has its text. -/
theorem kept?_keepText_self (s : Rendering) (x text : String) :
    (s.keepText x text).kept? x = some (.string text) := by
  show Dict.find? x ((s.scope.insertInRegister blockRegister x _).registerObject blockRegister) = _
  rw [Scope.registerObject_insertInRegister, Dict.find?_insert_self]

/-- When a block is complete, other names have what they had. -/
theorem kept?_keepText_of_ne {y : String} (h : y ≠ x) (s : Rendering) (text : String) :
    (s.keepText x text).kept? y = s.kept? y := by
  show Dict.find? y ((s.scope.insertInRegister blockRegister x _).registerObject blockRegister) = _
  rw [Scope.registerObject_insertInRegister, Dict.find?_insert_of_ne h]
  rfl

/-- When the first block of a name is complete, no entry is lost. -/
theorem grown_keepText (h : s.kept? x = none) (text : String) :
    s.Grown (s.keepText x text) := by
  intro y v hy
  by_cases hyx : y = x
  · rw [hyx, h] at hy
    cases hy
  · rw [kept?_keepText_of_ne hyx]
    exact hy

/-- A block that completes is not open. -/
theorem Sound.keepText (hs : s.Sound blocks) (hx : x ∉ blocks) (text : String) :
    (s.keepText x text).Sound blocks where
  texts y v hy := by
    by_cases hyx : y = x
    · rw [hyx, kept?_keepText_self] at hy
      cases hy
      exact ⟨text, rfl⟩
    · rw [kept?_keepText_of_ne hyx] at hy
      exact hs.texts y v hy
  unset y hy := by
    rw [kept?_keepText_of_ne (ne_of_mem_of_not_mem hy hx)]
    exact hs.unset y hy

end Rendering

namespace Event

/-- A block of a name is complete and has a text. -/
def Completes (x text : String) : Event → Prop
  | begins _ _ _ => False
  | ends _ node outcome _ => node.block? = some x ∧ outcome = .ok text

/-- Where a node begins, the blocks around it have no entry; where a block is complete, its text is
the entry. -/
def Right : Event → Prop
  | begins blocks _ s => ∀ x ∈ blocks, s.kept? x = none
  | ends _ node outcome s => ∀ x text, node.block? = some x → outcome = .ok text →
      s.kept? x = some (.string text)

/-- Where an event that is right completes a block, the text is the entry. -/
theorem Right.kept? {ev : Event} (h : ev.Right) {x text : String} (hev : ev.Completes x text) :
    ev.state.kept? x = some (.string text) := by
  cases ev with
  | begins => exact hev.elim
  | ends _ node outcome s => exact h x text hev.1 hev.2

end Event

/-- Through events that are right, from one state to another; entries that were made are kept. -/
inductive Through : Rendering → List Event → Rendering → Prop
  | stop {s s' : Rendering} (h : s.Grown s') : Through s [] s'
  | step {ev : Event} {rest : List Event} {s s' : Rendering} (h : s.Grown ev.state)
      (hev : ev.Right) (hrest : Through ev.state rest s') : Through s (ev :: rest) s'

namespace Through

variable {s u s' : Rendering} {log log' : List Event}

/-- A state with fewer entries leads through the same events. -/
theorem of_grown (hs : s.Grown u) (h : Through u log s') : Through s log s' := by
  cases h with
  | stop h => exact .stop (hs.trans h)
  | step h hev hrest => exact .step (hs.trans h) hev hrest

/-- Two lists of events lead through one after the other. -/
theorem append (h : Through s log u) (h' : Through u log' s') : Through s (log ++ log') s' := by
  induction h with
  | stop h => exact h'.of_grown h
  | step h hev _ ih => exact .step h hev (ih h')

/-- Events lead through to any state with more entries. -/
theorem grow (h : Through s log u) (hs : u.Grown s') : Through s log s' := by
  induction h with
  | stop h => exact .stop (h.trans hs)
  | step h hev _ ih => exact .step h hev (ih hs)

/-- Events that are right lose no entries. -/
theorem grown (h : Through s log s') : s.Grown s' := by
  induction h with
  | stop h => exact h
  | step h _ _ ih => exact h.trans ih

/-- Every event is right, and its state has the entries of the first one and not more than the last
one. -/
theorem of_mem (h : Through s log s') {ev : Event} (hev : ev ∈ log) :
    ev.Right ∧ s.Grown ev.state ∧ ev.state.Grown s' := by
  induction h with
  | stop => cases hev
  | step h hright hrest ih =>
    rcases List.mem_cons.1 hev with rfl | hev
    · exact ⟨hright, h, hrest.grown⟩
    · obtain ⟨hright', hafter, hlast⟩ := ih hev
      exact ⟨hright', h.trans hafter, hlast⟩

/-- Behind an event, the others lead through from its state. -/
theorem behind {before after : List Event} {ev : Event}
    (h : Through s (before ++ ev :: after) s') : Through ev.state after s' := by
  induction before generalizing s with
  | nil =>
    cases h with
    | step _ _ hrest => exact hrest
  | cons first before ih =>
    cases h with
    | step _ _ hrest => exact ih hrest

/-- At each event of a log that leads through, the event is right, the later ones are right and have
its entries, and so has the last state. -/
theorem at_split {before after : List Event} {ev : Event} (h : Through s log s')
    (hlog : log = before ++ ev :: after) :
    ev.Right ∧ (∀ later ∈ after, later.Right ∧ ev.state.Grown later.state) ∧
      ev.state.Grown s' := by
  subst hlog
  have hbehind := h.behind
  refine ⟨(h.of_mem (List.mem_append_right _ (.head _))).1, fun later hlater => ?_, hbehind.grown⟩
  obtain ⟨hright, hgrown, -⟩ := hbehind.of_mem hlater
  exact ⟨hright, hgrown⟩

end Through

/-- Events lead through from a state to another one, which is sound for blocks that are open. -/
structure Logged (blocks : List String) (s : Rendering) (log : List Event) (s' : Rendering) :
    Prop where
  sound : s'.Sound blocks
  through : Through s log s'

/-- Where nothing happens, nothing is logged. -/
theorem Logged.nil {blocks : List String} {s : Rendering} (hs : s.Sound blocks) :
    Logged blocks s [] s :=
  ⟨hs, .stop (.refl s)⟩

/-- What a tag enters is logged in order. -/
theorem Head.Flows.logged {actions : List (Render String)} {blocks : List String}
    {s s' : Rendering} {entries : List (Nat × Rendering)} (h : Flows actions s entries s')
    (inner : Nat → Rendering → List Event)
    (hinner : ∀ i u, u.Sound blocks →
      Logged blocks u (inner i u) ((bodyAt actions i).run.run u).2)
    (hs : s.Sound blocks) :
    Logged blocks s (entries.flatMap fun entry => inner entry.1 entry.2) s' := by
  induction h with
  | stop h => exact ⟨hs.of_registers h, .stop (Rendering.grown_of_registers h)⟩
  | @body s u s' i rest h _ ih =>
    have hfirst := hinner i u (hs.of_registers h)
    have hrest := ih hfirst.sound
    exact ⟨hrest.sound,
      (hfirst.through.append hrest.through).of_grown (Rendering.grown_of_registers h)⟩

namespace Node

/-- Nodes of built-in tags inside blocks of some names, without inclusions and without a block
inside another one of its name. -/
structure Plain (blocks : List String) (nodes : List Node) : Prop where
  builtin : BuiltinAll nodes
  closed : closedAll nodes = true
  apart : ∀ x ∈ blocks, x ∉ namesAll nodes
  once : ∀ x, (x, x) ∉ nestingsAll nodes

variable {blocks : List String} {n : Node} {more : List Node} {s : Rendering}

/-- The first of plain nodes is plain. -/
theorem Plain.first (h : Plain blocks (n :: more)) : Plain blocks [n] where
  builtin := ⟨h.builtin.1, trivial⟩
  closed := closedAll_cons.2 ⟨(closedAll_cons.1 h.closed).1, rfl⟩
  apart x hx hmem := by
    apply h.apart x hx
    simp only [namesAll, List.append_nil] at hmem ⊢
    exact List.mem_append_left _ hmem
  once x hmem := by
    apply h.once x
    simp only [nestingsAll, List.append_nil] at hmem ⊢
    exact List.mem_append_left _ hmem

/-- The further ones of plain nodes are plain. -/
theorem Plain.tail (h : Plain blocks (n :: more)) : Plain blocks more where
  builtin := h.builtin.2
  closed := (closedAll_cons.1 h.closed).2
  apart x hx hmem := h.apart x hx (List.mem_append_right _ hmem)
  once x hmem := h.once x (List.mem_append_right _ hmem)

/-- A block is open in its body. -/
theorem Plain.body {head : Head} {bodies : List (List Node)} {token : Token}
    (h : Plain blocks [.tag head bodies token]) {i : Nat} {body : List Node}
    (hbody : bodies[i]? = some body) : Plain (head.block?.toList ++ blocks) body := by
  have hmem : body ∈ bodies := List.mem_of_getElem? hbody
  have hnames : ∀ x ∈ namesAll body, x ∈ namesInBodies bodies := by
    intro x hx
    rw [namesInBodies_eq_flatMap]
    exact List.mem_flatMap.2 ⟨body, hmem, hx⟩
  have hclosed := (closed_tag.1 (closedAll_cons.1 h.closed).1).2
  refine ⟨h.builtin.1.2.getElem? hbody, closedAll_of_getElem? hclosed hbody,
    fun x hx hin => ?_, fun x hin => ?_⟩
  · rcases List.mem_append.1 hx with hx | hx
    · apply h.once x
      apply List.mem_append_left
      apply List.mem_append_left
      exact List.mem_flatMap.2 ⟨x, hx, List.mem_map.2 ⟨x, hnames x hin, rfl⟩⟩
    · apply h.apart x hx
      apply List.mem_append_left
      exact List.mem_append_right _ (hnames x hin)
  · apply h.once x
    apply List.mem_append_left
    apply List.mem_append_right
    rw [nestingsInBodies_eq_flatMap]
    exact List.mem_flatMap.2 ⟨body, hmem, hin⟩

variable {filters : Filters} {fetch : String → Render (Render String)}

/-- What happens inside of a node is logged between its two events. -/
theorem logged_eventsAround {inner : List Event} (hs : s.Sound blocks)
    (hinner : Logged blocks s inner ((n.render filters fetch).run.run s).2)
    (hends : ∀ x text, n.block? = some x → ((n.render filters fetch).run.run s).1 = .ok text →
      ((n.render filters fetch).run.run s).2.kept? x = some (.string text)) :
    Logged blocks s (eventsAround filters fetch blocks n s inner)
      ((n.render filters fetch).run.run s).2 := by
  have hlast : Through ((n.render filters fetch).run.run s).2
      [.ends blocks n ((n.render filters fetch).run.run s).1
        ((n.render filters fetch).run.run s).2] ((n.render filters fetch).run.run s).2 :=
    .step (.refl _) hends (.stop (.refl _))
  exact ⟨hinner.sound, .step (.refl _) hs.unset (hinner.through.append hlast)⟩

section Tags

variable {x text : String} {bodies : List (List Node)} {token : Token}

/-- A tag other than a block goes through the bodies that it enters. -/
theorem logged_tag {head : Head} (hbuiltin : head.Builtin) (hclosed : head.includes = false)
    (hblock : head.block? = none) (hs : s.Sound blocks)
    (hbody : ∀ i u, u.Sound blocks → Logged blocks u (logBody filters fetch blocks bodies i u)
      ((bodyAt (renderBodies filters fetch bodies) i).run.run u).2) :
    Logged blocks s (log filters fetch blocks (.tag head bodies token) s)
      (((Node.tag head bodies token).render filters fetch).run.run s).2 := by
  have hflows : Head.Flows (renderBodies filters fetch bodies) s
      (head.entries (renderBodies filters fetch bodies) s)
      ((head.render filters fetch (renderBodies filters fetch bodies)).run.run s).2 :=
    head.flows hbuiltin hblock hclosed s
  have hinner : Logged blocks s ((head.entries (renderBodies filters fetch bodies) s).flatMap
      fun entry => logBody filters fetch blocks bodies entry.1 entry.2)
      (((Node.tag head bodies token).render filters fetch).run.run s).2 :=
    hflows.logged _ hbody hs
  rw [log, hblock]
  apply logged_eventsAround hs hinner
  intro x text hx
  exact (Option.some_ne_none x (hx.symm.trans hblock)).elim

/-- A block is rendered with its place. -/
theorem run_block_tag (x : String) (bodies : List (List Node)) (token : Token) (s : Rendering) :
    ((Node.tag (.block x) bodies token).render filters fetch).run.run s =
      Prod.map (Except.mapError (Error.orAt · token.position)) id
        ((block x (bodyAt (renderBodies filters fetch bodies) 0)).run.run s) :=
  run_located ..

/-- A block whose name has an entry enters nothing. -/
theorem logged_block_of_text (hs : s.Sound blocks)
    (hkept : (s.kept? x).bind Value.string? = some text) :
    Logged blocks s (log filters fetch blocks (.tag (.block x) bodies token) s)
      (((Node.tag (.block x) bodies token).render filters fetch).run.run s).2 := by
  have hrun : ((Node.tag (.block x) bodies token).render filters fetch).run.run s =
      (.ok text, s) := by
    rw [run_block_tag, run_block_of_text hkept]
    rfl
  rw [log, Head.entries_block_of_text hkept]
  apply logged_eventsAround hs
  · rw [hrun]
    exact .nil hs
  · intro y text' hy htext
    rw [hrun] at htext ⊢
    cases hy
    cases htext
    exact Rendering.kept?_eq_of_string? hkept

/-- A block whose name has no entry keeps what it renders. -/
theorem logged_block_of_none (hx : x ∉ blocks) (hs : s.Sound blocks)
    (hnone : (s.kept? x).bind Value.string? = none)
    (hbody : Logged (x :: blocks) s (logBody filters fetch (x :: blocks) bodies 0 s)
      ((bodyAt (renderBodies filters fetch bodies) 0).run.run s).2) :
    Logged blocks s (log filters fetch blocks (.tag (.block x) bodies token) s)
      (((Node.tag (.block x) bodies token).render filters fetch).run.run s).2 := by
  have hrun : ((Node.tag (.block x) bodies token).render filters fetch).run.run s = _ :=
    run_block_tag x bodies token s
  rw [run_block hnone, run_bind] at hrun
  rcases hinner : (bodyAt (renderBodies filters fetch bodies) 0).run.run s with ⟨r, u⟩
  rw [hinner] at hrun hbody
  have hunset : u.kept? x = none := hbody.sound.unset x (.head _)
  have hu : u.Sound blocks :=
    ⟨hbody.sound.texts, fun y hy => hbody.sound.unset y (.tail _ hy)⟩
  rw [log, Head.entries_block hnone, List.flatMap_singleton]
  apply logged_eventsAround hs
  · rw [hrun]
    cases r with
    | error e => exact ⟨hu, hbody.through⟩
    | ok text =>
      exact ⟨hu.keepText hx text, hbody.through.grow (Rendering.grown_keepText hunset text)⟩
  · intro y text' hy htext
    rw [hrun] at htext ⊢
    cases hy
    cases r with
    | error e => cases htext
    | ok text =>
      cases htext
      exact u.kept?_keepText_self x _

end Tags

section Runs

variable (filters) (fetch)

mutual

/-- What rendering a node does is in its log, by induction on the node. -/
theorem logged_node (n : Node) (blocks : List String) (s : Rendering) (h : Plain blocks [n])
    (hs : s.Sound blocks) :
    Logged blocks s (log filters fetch blocks n s) ((n.render filters fetch).run.run s).2 := by
  cases n with
  | literal t => exact logged_eventsAround hs (.nil hs) nofun
  | output o t =>
    have hstate : (((Node.output o t).render filters fetch).run.run s).2 = s := by
      show ((Render.located t.position _).run.run s).2 = s
      rw [run_located]
      exact state_bind_pure (eval fun scope => o.eval filters scope) Value.text s
    refine logged_eventsAround hs ?_ nofun
    rw [hstate]
    exact .nil hs
  | tag head bodies token =>
    have hbody (i : Nat) (u : Rendering) (hu : u.Sound (head.block?.toList ++ blocks)) :
        Logged (head.block?.toList ++ blocks) u
          (logBody filters fetch (head.block?.toList ++ blocks) bodies i u)
          ((bodyAt (renderBodies filters fetch bodies) i).run.run u).2 :=
      logged_body bodies i (head.block?.toList ++ blocks) u (fun _ hbody => h.body hbody) hu
    cases hblock : head.block? with
    | none =>
      have hclosed := (closed_tag.1 (closedAll_cons.1 h.closed).1).1
      rw [hblock] at hbody
      exact logged_tag h.builtin.1.1 hclosed hblock hs hbody
    | some x =>
      cases head with
      | block name =>
        cases hblock
        cases hkept : (s.kept? x).bind Value.string? with
        | some text => exact logged_block_of_text hs hkept
        | none =>
          have hopen : s.Sound (x :: blocks) :=
            ⟨hs.texts, List.forall_mem_cons.2 ⟨hs.kept?_eq_none hkept, hs.unset⟩⟩
          exact logged_block_of_none (fun hx => h.apart x hx (.head _)) hs hkept (hbody 0 s hopen)
      | region => exact h.builtin.1.1.elim
      | _ => cases hblock

/-- What rendering nodes does is in their log, by induction on the nodes. -/
theorem logged_nodes (nodes : List Node) (blocks : List String) (s : Rendering)
    (h : Plain blocks nodes) (hs : s.Sound blocks) :
    Logged blocks s (logAll filters fetch blocks nodes s)
      ((renderAll filters fetch nodes).run.run s).2 := by
  cases nodes with
  | nil => exact .nil hs
  | cons n more =>
    have hfirst := logged_node n blocks s h.first hs
    rw [logAll, renderAll, run_bind]
    rcases hrun : (n.render filters fetch).run.run s with ⟨r, u⟩
    rw [hrun] at hfirst
    cases r with
    | error e =>
      rw [List.append_nil]
      exact hfirst
    | ok text =>
      have hmore := logged_nodes more blocks u h.tail hfirst.sound
      dsimp only
      rw [state_after]
      exact ⟨hmore.sound, hfirst.through.append hmore.through⟩

/-- What rendering a body of a tag does is in its log, by induction on the bodies. -/
theorem logged_body (bodies : List (List Node)) (i : Nat) (blocks : List String) (s : Rendering)
    (h : ∀ body, bodies[i]? = some body → Plain blocks body) (hs : s.Sound blocks) :
    Logged blocks s (logBody filters fetch blocks bodies i s)
      ((bodyAt (renderBodies filters fetch bodies) i).run.run s).2 := by
  cases bodies with
  | nil => exact .nil hs
  | cons body more =>
    cases i with
    | zero => exact logged_nodes body blocks s (h body rfl) hs
    | succ i => exact logged_body more i blocks s h hs

end

end Runs

end Node

/-- What a rendering does from a point on is in its log. -/
theorem Point.logged (setup : Setup) (filters : Filters) {p : Point} (hp : Node.Plain [] p.nodes)
    (hs : p.state.Sound []) :
    Logged [] p.state (p.log setup filters []) (p.run setup filters).2 := by
  obtain ⟨t, depth, nodes, s⟩ := p
  cases depth with
  | zero => exact .nil hs
  | succ n => exact Node.logged_nodes filters (fetch setup filters n) nodes [] s hp hs

namespace Engine

/-- The events of rendering a template in a scope. -/
def log (e : Engine) (options : Options) (scope : Scope) (t : Template) : List Event :=
  (e.start scope t).log e.setup (e.filtersFor options) []

/-- Blocks are rendered once while a template is rendered in a scope. -/
structure BlocksOnce (e : Engine) (options : Options) (scope : Scope) (t : Template) : Prop where
  /-- The log has all nodes that the rendering comes to, with their outcomes. -/
  comes : ∀ u n node rest s,
    Relation.ReflTransGen (Leads e.setup (e.filtersFor options)) (e.start scope t)
      ⟨u, n + 1, node :: rest, s⟩ →
        ∃ blocks, .begins blocks node s ∈ e.log options scope t ∧
          .ends blocks node
            ((node.render (e.filtersFor options)
              (fetch e.setup (e.filtersFor options) n)).run.run s).1
            ((node.render (e.filtersFor options)
              (fetch e.setup (e.filtersFor options) n)).run.run s).2 ∈ e.log options scope t
  /-- Nodes that it comes to from the body of a block begin inside this block. -/
  inside : ∀ u n x bodies token rest s body u' n' node rest' s',
    Relation.ReflTransGen (Leads e.setup (e.filtersFor options)) (e.start scope t)
      ⟨u, n + 1, .tag (.block x) bodies token :: rest, s⟩ →
    (Head.block x).Enters (Node.renderBodies (e.filtersFor options)
      (fetch e.setup (e.filtersFor options) n) bodies) s 0 s → bodies[0]? = some body →
    Relation.ReflTransGen (Leads e.setup (e.filtersFor options)) ⟨u, n + 1, body, s⟩
      ⟨u', n' + 1, node :: rest', s'⟩ →
        ∃ blocks, x ∈ blocks ∧ .begins blocks node s' ∈ e.log options scope t
  /-- Nothing is evaluated that is not logged: what a tag does depends on no body but those that it
  enters. -/
  only : ∀ u n head bodies token rest s actions,
    Relation.ReflTransGen (Leads e.setup (e.filtersFor options)) (e.start scope t)
      ⟨u, n + 1, .tag head bodies token :: rest, s⟩ →
    actions.length = bodies.length →
    (∀ i s', head.Enters (Node.renderBodies (e.filtersFor options)
        (fetch e.setup (e.filtersFor options) n) bodies) s i s' →
      (bodyAt actions i).run.run s' = (bodyAt (Node.renderBodies (e.filtersFor options)
        (fetch e.setup (e.filtersFor options) n) bodies) i).run.run s') →
    (head.render (e.filtersFor options) (fetch e.setup (e.filtersFor options) n)
        actions).run.run s =
      (head.render (e.filtersFor options) (fetch e.setup (e.filtersFor options) n)
        (Node.renderBodies (e.filtersFor options) (fetch e.setup (e.filtersFor options) n)
          bodies)).run.run s
  /-- Blocks of one name that complete have one text. -/
  same : ∀ x first later text text', first ∈ e.log options scope t →
    later ∈ e.log options scope t → first.Completes x text → later.Completes x text' →
      text' = text
  /-- When a block is complete, no node begins inside a block of its name. -/
  never : ∀ before ev after x text, e.log options scope t = before ++ ev :: after →
    ev.Completes x text → ∀ blocks node s, .begins blocks node s ∈ after → x ∉ blocks
  /-- A block of its name that begins then has this text and no effect, whatever its body would do. -/
  reused : ∀ before ev after x text, e.log options scope t = before ++ ev :: after →
    ev.Completes x text → ∀ blocks bodies token s,
      .begins blocks (.tag (.block x) bodies token) s ∈ after → ∀ filters fetch actions,
        ((Head.block x).render filters fetch actions).run.run s = (.ok text, s)
  /-- What the register of blocks has under a name stays as it is until the rendering ends. -/
  kept : ∀ before ev after x v, e.log options scope t = before ++ ev :: after →
    ev.state.kept? x = some v →
      (∀ later ∈ after, later.state.kept? x = some v) ∧
        Dict.find? x ((e.renderInScope options scope t).2.1.registerObject blockRegister) = some v

/-- In a template without inclusions in which no block stands inside another one of its name, blocks
are rendered once. -/
theorem blocks_once (e : Engine) {t : Template} (ht : t.Builtin)
    (hclosed : Node.closedAll t.nodes = true) (honce : ∀ x, (x, x) ∉ Node.nestingsAll t.nodes)
    (options : Options) (root : Dict Value) :
    e.BlocksOnce options (Scope.ofData root options) t := by
  have hplain : Node.Plain [] t.nodes := ⟨ht, hclosed, nofun, honce⟩
  have hsound : (e.start (Scope.ofData root options) t).state.Sound [] := ⟨nofun, nofun⟩
  have hthrough := (Point.logged e.setup (e.filtersFor options) hplain hsound).through
  refine ⟨?_, ?_, ?_, ?_, ?_, ?_, ?_⟩
  · intro u n node rest s hcomes
    obtain ⟨-, more, hsubset⟩ := Point.log_subset_of_reflTransGen hcomes hclosed []
    exact ⟨more ++ [], Point.mem_of_log_subset hsubset⟩
  · intro u n x bodies token rest s body u' n' node rest' s' hcomes henters hbody hfurther
    obtain ⟨htag, more, hsubset⟩ := Point.log_subset_of_reflTransGen hcomes hclosed []
    have hbodies := (Node.closed_tag.1 (Node.closedAll_cons.1 htag).1).2
    obtain ⟨-, more', hsubset'⟩ := Point.log_subset_of_reflTransGen hfurther
      (Node.closedAll_of_getElem? hbodies hbody) ([x] ++ (more ++ []))
    have hbegins := (Point.mem_of_log_subset hsubset').1
    exact ⟨more' ++ ([x] ++ (more ++ [])), List.mem_append_right _ (.head _),
      hsubset (Point.log_body henters hbody (more ++ []) hbegins)⟩
  · intro u n head bodies token rest s actions hcomes hlength hagree
    have hbuiltin := builtinAll_of_reflTransGen hcomes hclosed ht
    apply Head.run_congr hbuiltin.1.1 _ hagree
    rw [hlength, Node.renderBodies_eq_map, List.length_map]
  · intro x first later text text' hfirst hlater htext htext'
    have hkept := (hthrough.of_mem hfirst).2.2 x _ ((hthrough.of_mem hfirst).1.kept? htext)
    have hkept' := (hthrough.of_mem hlater).2.2 x _ ((hthrough.of_mem hlater).1.kept? htext')
    rw [hkept] at hkept'
    cases hkept'
    rfl
  · intro before ev after x text hlog htext blocks node s hbegins hx
    obtain ⟨hright, hlater, -⟩ := hthrough.at_split hlog
    have hentry := (hlater _ hbegins).2 x _ (hright.kept? htext)
    have hunset := (hlater _ hbegins).1 x hx
    rw [show s.kept? x = _ from hentry] at hunset
    cases hunset
  · intro before ev after x text hlog htext blocks bodies token s hbegins filters fetch actions
    obtain ⟨hright, hlater, -⟩ := hthrough.at_split hlog
    have hkept : s.kept? x = some (.string text) :=
      (hlater _ hbegins).2 x _ (hright.kept? htext)
    apply run_block_of_text
    rw [show Dict.find? x (s.scope.registerObject blockRegister) = _ from hkept]
    rfl
  · intro before ev after x v hlog hentry
    obtain ⟨-, hlater, hlast⟩ := hthrough.at_split hlog
    exact ⟨fun later hmem => (hlater later hmem).2 x v hentry, hlast x v hentry⟩

/-- An engine with a layout that has a block in a loop. -/
def pages : Engine :=
  ofSources {} [("page.liquid", "\x7b% block a %\x7d\x7b% endblock %\x7d|" ++
    "\x7b% for i in list %\x7d\x7b% block b %\x7d\x7b\x7b i \x7d\x7d\x7b% endblock %\x7d" ++
    "\x7b% endfor %\x7d")]

/-- A template that has the block of the loop in the other block too. -/
def pageSource : String :=
  "\x7b% extends 'page' %\x7d\x7b% block a %\x7dx" ++
    "\x7b% block b %\x7d\x7b\x7b list[1] \x7d\x7d\x7b% endblock %\x7d\x7b% endblock %\x7d"

/-- Data for the template. -/
def pageData : Dict Value :=
  [("list", .array [.string "u", .string "v"])]

/-- A block in a loop is rendered once, and a block of its name in another block before it gives the
text for all of them. -/
theorem blocks_once_pages : ∃ issued,
    (pages.parse none pageSource).1 = .ok issued ∧ issued.template.Builtin ∧
      Node.closedAll issued.template.nodes = true ∧
      (∀ x, (x, x) ∉ Node.nestingsAll issued.template.nodes) ∧
      (pages.renderInScope {} (Scope.ofData pageData {}) issued.template).1.toOption =
        some "xv|vv" ∧
      pages.BlocksOnce {} (Scope.ofData pageData {}) issued.template := by
  have hcheck : (pages.parse none pageSource).1.toOption.map (fun issued =>
      (Node.closedAll issued.template.nodes, Node.nestingsAll issued.template.nodes,
        (pages.renderInScope {} (Scope.ofData pageData {}) issued.template).1.toOption)) =
      some (true, [("a", "b")], some "xv|vv") := by
    decide +kernel
  obtain ⟨issued, hparse, hfacts⟩ := exists_ok_of_map_toOption hcheck
  obtain ⟨hclosed, hrest⟩ := Prod.mk.inj hfacts
  obtain ⟨hnestings, htext⟩ := Prod.mk.inj hrest
  have he : pages.Builtin := builtin_ofSources _ _
  have ht : issued.template.Builtin := (he.parse none pageSource).2 issued hparse
  have honce (x : String) : (x, x) ∉ Node.nestingsAll issued.template.nodes := by
    rw [hnestings]
    intro hx
    obtain ⟨hfirst, hsecond⟩ := Prod.mk.inj (List.mem_singleton.1 hx)
    exact absurd (hfirst.symm.trans hsecond) (by decide)
  exact ⟨issued, hparse, ht, hclosed, honce, htext, blocks_once pages ht hclosed honce {} pageData⟩

end Engine

end Stencil
