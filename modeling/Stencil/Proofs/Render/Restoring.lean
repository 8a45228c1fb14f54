import Stencil.Proofs.Render.Builtin
import Stencil.Proofs.Render.Calls

/-!
# Rendering restores the scope

Whatever the outcome of a rendering, the scope is as it was but for the register of blocks and for
what tags bind in the root frame (`Scope.Kept`).  Frames are pushed by loops and by inclusions only,
and what is inside of them is rendered with the frames around it kept (`Rendering.Inside`); so the
frames are the ones from before when the pushed one is removed.  A tag keeps the scope if the bodies
that it enters do (`Head.keeps_render`), and by induction on how deep templates include each other,
and on the nodes, so does a template (`Engine.renderInScope_restores`).
-/

set_option autoImplicit false

namespace Stencil

/-- A scope was changed in the register of blocks and in the given variables of the root frame at
most. -/
structure Scope.Kept (names : String → Prop) (s s' : Scope) : Prop where
  inner : s'.inner = s.inner
  strict : s'.strict = s.strict
  register : ∀ key, key ≠ Render.blockRegister → s'.register? key = s.register? key
  root : ∀ name, ¬ names name → Dict.find? name s'.root = Dict.find? name s.root

namespace Scope.Kept

variable {names : String → Prop} {s s' s'' : Scope}

/-- A scope keeps itself. -/
theorem refl (names : String → Prop) (s : Scope) : s.Kept names s :=
  ⟨rfl, rfl, fun _ _ => rfl, fun _ _ => rfl⟩

/-- What is kept in two steps is kept. -/
theorem trans (h : s.Kept names s') (h' : s'.Kept names s'') : s.Kept names s'' :=
  ⟨h'.inner.trans h.inner, h'.strict.trans h.strict,
    fun key hkey => (h'.register key hkey).trans (h.register key hkey),
    fun name hname => (h'.root name hname).trans (h.root name hname)⟩

/-- Binding one of the names in the root frame keeps everything else. -/
theorem setRoot {name : String} (hname : names name) (value : Value) :
    s.Kept names (s.setRoot name value) := by
  refine ⟨rfl, rfl, fun _ _ => rfl, fun other hother => ?_⟩
  apply Dict.find?_insert_of_ne
  rintro rfl
  exact hother hname

/-- An entry for a block keeps everything else. -/
theorem insertInRegister (name : String) (value : Value) :
    s.Kept names (s.insertInRegister Render.blockRegister name value) :=
  ⟨rfl, rfl, fun _ hkey => Dict.find?_insert_of_ne hkey _ _, fun _ _ => rfl⟩

/-- What is kept with the innermost frame is kept without it. -/
theorem pop (h : s.Kept names s') : s.pop.Kept names s'.pop :=
  ⟨congrArg List.tail h.inner, h.strict, h.register, h.root⟩

end Scope.Kept

/-- An action was run: the scope was kept, and the templates that the store keeps are those of the
tags of every engine. -/
structure Rendering.Kept (names : String → Prop) (s s' : Rendering) : Prop where
  scope : s.scope.Kept names s'.scope
  store : s'.store.Builtin

/-- A state with one more frame than another one, but for which the scope was kept. -/
structure Rendering.Inside (names : String → Prop) (base s : Rendering) : Prop where
  frame : ∃ frame, s.scope.inner = frame :: base.scope.inner
  kept : base.Kept names (s.withScope Scope.pop)

namespace Rendering

variable {names : String → Prop} {base s s' s'' : Rendering}

/-- A state keeps itself. -/
theorem Kept.refl (h : s.store.Builtin) : s.Kept names s :=
  ⟨.refl names s.scope, h⟩

/-- What is kept in two steps is kept. -/
theorem Kept.trans (h : s.Kept names s') (h' : s'.Kept names s'') : s.Kept names s'' :=
  ⟨h.scope.trans h'.scope, h'.store⟩

/-- A state with one more frame is inside the one without it. -/
theorem inside_push (h : s.store.Builtin) (frame : Dict Value) :
    s.Inside names (s.withScope (Scope.push · frame)) :=
  ⟨⟨frame, rfl⟩, .refl h⟩

/-- What is kept inside a frame is inside the frame. -/
theorem Inside.trans (h : base.Inside names s) (h' : s.Kept names s') : base.Inside names s' := by
  obtain ⟨frame, hframe⟩ := h.frame
  refine ⟨⟨frame, h'.scope.inner.trans hframe⟩, h.kept.scope.trans h'.scope.pop, h'.store⟩

/-- Binding a variable changes nothing below the innermost frame. -/
theorem Inside.set (h : base.Inside names s) (name : String) (value : Value) :
    base.Inside names (s.withScope (Scope.set · name value)) := by
  obtain ⟨frame, hframe⟩ := h.frame
  have hset : s.scope.set name value =
      { s.scope with inner := Dict.insert name value frame :: base.scope.inner } := by
    rw [Scope.set, hframe]
  have hpop : s.scope.pop = { s.scope with inner := base.scope.inner } := by
    rw [Scope.pop, hframe]
    rfl
  have hkept := h.kept
  simp only [withScope, hpop] at hkept
  simp only [withScope, hset]
  exact ⟨⟨_, rfl⟩, hkept⟩

end Rendering

namespace Render

/-- An action that is run in a state keeps the scope, whatever the outcome. -/
def Keeps {α : Type} (names : String → Prop) (s : Rendering) (action : Render α) : Prop :=
  s.store.Builtin → s.Kept names (action.run.run s).2

section Keeps

variable {α β : Type} {names : String → Prop} {s : Rendering}

/-- A result keeps everything. -/
theorem keeps_pure (x : α) : Keeps names s (pure x) :=
  fun hs => .refl hs

/-- An error keeps everything. -/
theorem keeps_throw (e : Error) : Keeps names s (throw e : Render α) :=
  fun hs => .refl hs

/-- An evaluation keeps everything. -/
theorem keeps_eval (f : Scope → Except Error α) : Keeps names s (eval f) :=
  fun hs => .refl hs

/-- A sequence keeps what its steps keep, where the second one runs in the state that the first one
leaves. -/
theorem keeps_bind {action : Render α} {f : α → Render β} (h : Keeps names s action)
    (hf : ∀ x s', action.run.run s = (.ok x, s') → Keeps names s' (f x)) :
    Keeps names s (action >>= f) := by
  intro hs
  have hkept := h hs
  rw [run_bind]
  split
  · next x s' hrun =>
    rw [hrun] at hkept
    exact hkept.trans (hf x s' hrun hkept.store)
  · next e s' hrun =>
    rw [hrun] at hkept
    exact hkept

/-- An evaluation in front of an action keeps what the action does for its value. -/
theorem keeps_eval_bind {f : Scope → Except Error α} {g : α → Render β}
    (h : ∀ x, f s.scope = .ok x → Keeps names s (g x)) : Keeps names s (eval f >>= g) := by
  apply keeps_bind (keeps_eval f)
  intro x s' hrun
  rw [run_eval] at hrun
  obtain ⟨hx, rfl⟩ := Prod.mk.inj hrun
  exact h x hx

/-- An action that looks at the state keeps what it does for this state. -/
theorem keeps_get_bind {f : Rendering → Render α} (h : Keeps names s (f s)) :
    Keeps names s (get >>= f) :=
  h

/-- Loading a template keeps the scope. -/
theorem keeps_load {action : Loading α} {p : α → Prop} (h : Loading.Sound p action) :
    Keeps names s (load action) :=
  fun hs => ⟨.refl names s.scope, (h s.store hs).1⟩

/-- Loading a template in front of an action keeps what the action does for the template. -/
theorem keeps_load_bind {action : Loading α} {p : α → Prop} (h : Loading.Sound p action)
    {f : α → Render β}
    (hf : ∀ x s', (load action).run.run s = (.ok x, s') → p x → Keeps names s' (f x)) :
    Keeps names s (load action >>= f) := by
  intro hs
  have hresult := (h s.store hs).2
  refine keeps_bind (keeps_load h) (fun x s' hrun => ?_) hs
  exact hf x s' hrun (hresult x (congrArg Prod.fst hrun))

/-- With a place, an action keeps what it does without. -/
theorem keeps_located {action : Render α} (h : Keeps names s action) (p : Position) :
    Keeps names s (located p action) :=
  h

/-- Behind a text, an action keeps what it does without. -/
theorem keeps_after {action : Render String} (h : Keeps names s action) (text : String) :
    Keeps names s (after text action) := by
  intro hs
  rw [state_after]
  exact h hs

/-- A change of the scope keeps what it keeps of the scope. -/
theorem keeps_modifyScope {f : Scope → Scope} (h : s.scope.Kept names (f s.scope)) :
    Keeps names s (modifyScope f) :=
  fun hs => ⟨h, hs⟩

/-- What is rendered within a further frame keeps the scope without the frame. -/
theorem keeps_within {frame : Dict Value} {action : Render α}
    (h : s.store.Builtin →
      s.Inside names (action.run.run (s.withScope (Scope.push · frame))).2) :
    Keeps names s (within frame action) :=
  fun hs => (h hs).kept

/-- A body of a tag keeps what it does. -/
theorem keeps_bodyAt {bodies : List (Render String)} {i : Nat}
    (h : ∀ body, bodies[i]? = some body → Keeps names s body) :
    Keeps names s (bodyAt bodies i) := by
  unfold bodyAt
  cases hbody : bodies[i]? with
  | none => exact keeps_pure ""
  | some body => exact h body hbody

/-- The first body whose condition holds keeps what it does. -/
theorem keeps_firstHolding {conditions : List Condition} {bodies : List (Render String)}
    (h : ∀ i body, Chosen s.scope conditions i → bodies[i]? = some body → Keeps names s body) :
    Keeps names s (firstHolding conditions bodies) := by
  induction conditions generalizing bodies with
  | nil => exact keeps_bodyAt fun body hbody => h 0 body .otherwise hbody
  | cons c conditions ih =>
    cases bodies with
    | nil => exact keeps_pure ""
    | cons body bodies =>
      apply keeps_eval_bind
      intro holds hholds
      cases holds with
      | true => exact h 0 body (.holds hholds) rfl
      | false => exact ih fun i other hi hother => h (i + 1) other (.fails hholds hi) hother

end Keeps

end Render

open Render Rendering

section Heads

variable {names : String → Prop} {s : Rendering}

/-- Evaluating parameters keeps everything. -/
theorem keeps_paramFrame (params : List (String × Operand)) :
    Keeps names s (paramFrame params) := by
  unfold paramFrame
  generalize ([] : Dict Value) = frame
  induction params generalizing frame with
  | nil => exact keeps_pure frame
  | cons p params ih =>
    rw [List.foldlM_cons, bind_assoc]
    apply keeps_eval_bind
    intro value _
    rw [pure_bind]
    exact ih _

namespace Loop

/-- The count of a loop keeps everything. -/
theorem keeps_count (operand : Option Operand) : Keeps names s (count operand) := by
  cases operand with
  | none => exact keeps_pure none
  | some operand =>
    apply keeps_eval_bind
    intro v _
    cases v with
    | number n => exact keeps_pure _
    | null => exact keeps_pure _
    | _ => exact keeps_throw _

/-- Finding the items that a loop visits keeps everything. -/
theorem keeps_visited (loop : Loop) : Keeps names s loop.visited := by
  apply keeps_eval_bind
  intro items _
  apply keeps_bind (keeps_count loop.offset)
  intro offset s₁ _
  apply keeps_bind (keeps_count loop.limit)
  intro limit s₂ _
  exact keeps_pure _

/-- The rounds of a loop stay inside its frame, if its body keeps the scope in every round. -/
theorem inside_rounds {base : Rendering} {var : String} {length index : Nat}
    {body : Render String} {items : List Value} (h : base.Inside names s)
    (hbody : ∀ u, Starts var length body index items s u → Keeps names u body) :
    base.Inside names ((rounds var length body index items).run.run s).2 := by
  induction items generalizing index s with
  | nil => exact h
  | cons item rest ih =>
    have hstart : base.Inside names (roundState var length index item s) :=
      (h.set var item).set "forloop" (state index length)
    have hround := hstart.trans (hbody _ .first hstart.kept.store)
    rw [← state_round] at hround
    rw [rounds, run_bind, run_modifyScope]
    show base.Inside names (StateT.run (ExceptT.run (Render.round body >>= _))
      (roundState var length index item s)).2
    rw [run_bind]
    split
    · next r s' hrun =>
      obtain ⟨text, goesOn⟩ := r
      rw [hrun] at hround
      cases goesOn with
      | false => exact hround
      | true =>
        show base.Inside names (StateT.run (ExceptT.run
          (rounds var length body (index + 1) rest >>= fun more => pure (text ++ more))) s').2
        rw [state_bind_pure]
        exact ih hround fun u hu => hbody u (.next hrun hu)
    · next e s' hrun =>
      rw [hrun] at hround
      exact hround

end Loop

namespace Head

/-- A tag keeps the scope if the bodies that it enters do, and if it does so where it is an
inclusion. -/
theorem keeps_render {filters : Filters} {fetch : String → Render (Render String)} {head : Head}
    {bodies : List (Render String)} (hbuiltin : head.Builtin)
    (hbound : ∀ name, head.bound? = some name → names name)
    (hbodies : ∀ i body s', head.Enters bodies s i s' → bodies[i]? = some body →
      Keeps names s' body)
    (hinclusion : ∀ name params, head = .inclusion name params →
      Keeps names s (head.render filters fetch bodies)) :
    Keeps names s (head.render filters fetch bodies) := by
  cases head with
  | layout => exact keeps_pure ""
  | text => exact keeps_pure _
  | signal => exact keeps_throw _
  | inclusion name params => exact hinclusion name params rfl
  | assign name value =>
    apply keeps_eval_bind
    intro v _
    apply keeps_bind (keeps_modifyScope (.setRoot (hbound name rfl) v))
    intro _ _ _
    exact keeps_pure ""
  | capture name =>
    apply keeps_bind (keeps_bodyAt fun body hbody => hbodies 0 body s .capture hbody)
    intro text s' _
    apply keeps_bind (keeps_modifyScope (.setRoot (hbound name rfl) _))
    intro _ _ _
    exact keeps_pure ""
  | block name =>
    apply keeps_get_bind
    split
    · exact keeps_pure _
    · next hnone =>
      apply keeps_bind (keeps_bodyAt fun body hbody => hbodies 0 body s (.block hnone) hbody)
      intro text s' _
      apply keeps_bind (keeps_modifyScope (.insertInRegister name (.string text)))
      intro _ _ _
      exact keeps_pure text
  | conditional conditions =>
    apply keeps_firstHolding
    intro i body hi
    exact hbodies i body s (.conditional hi)
  | negated c =>
    apply keeps_eval_bind
    intro holds hholds
    cases holds with
    | true => exact keeps_bodyAt fun body hbody => hbodies 1 body s (.negated hholds) hbody
    | false => exact keeps_bodyAt fun body hbody => hbodies 0 body s (.negated hholds) hbody
  | loop l =>
    show Keeps names s (l.render bodies)
    rw [Loop.render_eq]
    apply keeps_bind (Loop.keeps_visited l)
    intro items s' hvisited
    cases items with
    | nil => exact keeps_bodyAt fun body hbody => hbodies 1 body s' (.noItems hvisited) hbody
    | cons item rest =>
      rw [List.isEmpty_cons, if_neg Bool.false_ne_true]
      apply keeps_within
      intro hs
      apply Loop.inside_rounds (inside_push hs [])
      intro u hu
      exact keeps_bodyAt fun body hbody => hbodies 0 body u (.round hvisited hu) hbody
  | script | region => exact hbuiltin.elim

end Head

end Heads

section Nodes

variable {setup : Setup} {filters : Filters} {names : String → Prop}

open Template (fetch renderIn)

/-- An inclusion keeps the scope if the template that it loads does, inside the frame of its
parameters. -/
theorem keeps_inclusion (htags : setup.tags = TagKind.builtin) {n : Nat} {s : Rendering}
    {name : Operand} {params : List (String × Operand)} {bodies : List (Render String)}
    (hinner : ∀ v issued s₁ frame s₂, name.eval s.scope = .ok v →
      (load (setup.getTemplate v.text)).run.run s = (.ok issued, s₁) →
        (paramFrame params).run.run s₁ = (.ok frame, s₂) → issued.template.Builtin →
          Keeps names (s₂.withScope (Scope.push · frame))
            (renderIn setup filters n issued.template.nodes)) :
    Keeps names s ((Head.inclusion name params).render filters (fetch setup filters n) bodies) := by
  apply keeps_eval_bind
  intro v hv
  simp only [fetch, bind_assoc, pure_bind]
  apply keeps_load_bind (Setup.sound_getTemplate htags v.text)
  intro issued s₁ hload hissued
  apply keeps_bind (keeps_paramFrame params)
  intro frame s₂ hframe
  apply keeps_within
  intro hs
  exact (inside_push hs frame).trans (hinner v issued s₁ frame s₂ hv hload hframe hissued hs)

/-- Bodies are rendered one by one. -/
theorem Node.renderBodies_eq_map (fetch : String → Render (Render String))
    (bodies : List (List Node)) :
    renderBodies filters fetch bodies = bodies.map (renderAll filters fetch) := by
  induction bodies with
  | nil => rfl
  | cons body rest ih => rw [renderBodies, ih, List.map_cons]

/-- Templates that may include each other `n` deep keep the scope, but for what they bind. -/
def KeepsIn (setup : Setup) (filters : Filters) (names : String → Prop) (n : Nat) : Prop :=
  ∀ (t : Template) (nodes : List Node) (s : Rendering), Node.BuiltinAll nodes →
    (∀ x, Point.Binds setup filters ⟨t, n, nodes, s⟩ x → names x) →
      Keeps names s (renderIn setup filters n nodes)

mutual

/-- Rendering a node keeps everything but the names that it binds, by induction on the node. -/
theorem keeps_node (htags : setup.tags = TagKind.builtin) {n : Nat}
    (hn : KeepsIn setup filters names n) {t : Template} {node : Node} {rest : List Node}
    {s : Rendering} (hnode : node.Builtin)
    (hnames : ∀ x, Point.Binds setup filters ⟨t, n + 1, node :: rest, s⟩ x → names x) :
    Keeps names s (node.render filters (fetch setup filters n)) := by
  cases node with
  | literal => exact keeps_pure _
  | output o token =>
    apply keeps_located
    apply keeps_eval_bind
    intro v _
    exact keeps_pure _
  | tag head bodies token =>
    apply keeps_located
    apply Head.keeps_render hnode.1
    · intro name hbound
      exact hnames name ⟨t, n + 1, head, bodies, token, rest, s, hbound, .refl⟩
    · intro i action s' henters haction
      rw [Node.renderBodies_eq_map, List.getElem?_map] at haction
      obtain ⟨body, hbody, rfl⟩ := Option.map_eq_some_iff.1 haction
      apply keeps_bodies htags hn hnode.2 hbody
      intro x hx
      exact hnames x ((Leads.body henters hbody).binds hx)
    · rintro name params rfl
      apply keeps_inclusion htags
      intro v issued s₁ frame s₂ hv hload hframe hissued
      cases n with
      | zero => exact keeps_throw _
      | succ n =>
        apply hn issued.template _ _ hissued
        intro x hx
        exact hnames x ((Leads.inclusion hv hload hframe).binds hx)

/-- Rendering nodes keeps everything but the names that they bind, by induction on the nodes. -/
theorem keeps_nodes (htags : setup.tags = TagKind.builtin) {n : Nat}
    (hn : KeepsIn setup filters names n) {t : Template} {nodes : List Node} {s : Rendering}
    (hnodes : Node.BuiltinAll nodes)
    (hnames : ∀ x, Point.Binds setup filters ⟨t, n + 1, nodes, s⟩ x → names x) :
    Keeps names s (Node.renderAll filters (fetch setup filters n) nodes) := by
  cases nodes with
  | nil => exact keeps_pure ""
  | cons node rest =>
    apply keeps_bind (keeps_node htags hn hnodes.1 hnames)
    intro text s' hrun
    apply keeps_after
    apply keeps_nodes htags hn hnodes.2
    intro x hx
    exact hnames x ((Leads.next hrun).binds hx)

/-- Rendering a body of a tag keeps everything but the names that it binds, by induction on the
bodies. -/
theorem keeps_bodies (htags : setup.tags = TagKind.builtin) {n : Nat}
    (hn : KeepsIn setup filters names n) {t : Template} {bodies : List (List Node)} {i : Nat}
    {body : List Node} {s : Rendering} (hbodies : Node.BuiltinInBodies bodies)
    (hbody : bodies[i]? = some body)
    (hnames : ∀ x, Point.Binds setup filters ⟨t, n + 1, body, s⟩ x → names x) :
    Keeps names s (Node.renderAll filters (fetch setup filters n) body) := by
  cases bodies with
  | nil => simp at hbody
  | cons first rest =>
    cases i with
    | zero =>
      cases hbody
      exact keeps_nodes htags hn hbodies.1 hnames
    | succ i => exact keeps_bodies htags hn hbodies.2 hbody hnames

end

/-- Names are bound through any number of inclusions, and nothing else is changed. -/
theorem keepsIn (htags : setup.tags = TagKind.builtin) (n : Nat) :
    KeepsIn setup filters names n := by
  induction n with
  | zero =>
    intro t nodes s _ _
    exact keeps_throw _
  | succ n ih =>
    intro t nodes s hnodes hnames
    rw [Template.renderIn_succ]
    exact keeps_nodes htags ih hnodes hnames

/-- Rendering a template keeps everything but the names that it binds. -/
theorem Template.keeps_render (htags : setup.tags = TagKind.builtin) {t : Template}
    (ht : t.Builtin) (s : Rendering) :
    Keeps (Point.Binds setup filters ⟨t, inclusionBound, t.nodes, s⟩) s (t.render setup filters) :=
  keepsIn htags inclusionBound t t.nodes s ht fun _ hx => hx

end Nodes

namespace Engine

/-- Rendering a template adds no templates of other tags to an engine. -/
theorem Builtin.renderInScope {e : Engine} (he : e.Builtin) {t : Template} (ht : t.Builtin)
    (options : Options) (scope : Scope) : (e.renderInScope options scope t).2.2.Builtin :=
  ⟨he.tags, (Template.keeps_render he.tags ht ⟨scope, e.store⟩ he.store).store⟩

/-- Whatever the outcome of rendering a template, the scope is as before, but for the register of
blocks and for variables of the root frame that the rendered templates bind. -/
theorem renderInScope_restores {e e' : Engine} (he : e.Builtin) {options : Options}
    {scope scope' : Scope} {t : Template} (ht : t.Builtin) {r : Except Error String}
    (h : e.renderInScope options scope t = (r, scope', e')) :
    scope'.depth = scope.depth ∧ scope'.inner = scope.inner ∧ scope'.strict = scope.strict ∧
      (∀ key, key ≠ "blocks" → scope'.register? key = scope.register? key) ∧
      ∀ name, Dict.find? name scope'.root ≠ Dict.find? name scope.root →
        ∃ u, Template.Rendered e.setup (e.filtersFor options) t ⟨scope, e.store⟩ u ∧
          name ∈ Node.boundAll u.nodes := by
  obtain ⟨⟨hinner, hstrict, hregister, hroot⟩, -⟩ :=
    Template.keeps_render he.tags ht ⟨scope, e.store⟩ he.store
  cases h
  refine ⟨?_, hinner, hstrict, hregister, ?_⟩
  · exact congrArg (List.length · + 1) hinner
  · intro name hname
    apply Template.exists_rendered_of_binds
    by_contra hnot
    exact hname (hroot name hnot)

/-- An engine with a template that binds variables of the root frame. -/
def visitors : Engine :=
  ofSources {} [("card.liquid",
    "\x7b% assign last = who %\x7d" ++
      "\x7b% capture text %\x7d\x7b\x7b who \x7d\x7d\x7b% endcapture %\x7d")]

/-- A template that includes the other one in every round of a loop, and then stops. -/
def visitSource : String :=
  "\x7b% for i in list %\x7d\x7b% include 'card', who: i %\x7d\x7b% endfor %\x7d\x7b% break %\x7d"

/-- A scope with one frame inside the root. -/
def visitScope : Scope where
  root := [("list", .array [.string "a", .string "b"])]
  inner := [[("who", .string "c")]]
  strict := true

/-- Behind a loop with an inclusion that assigns, the scope has the frames that it had and the new
variable. -/
theorem renderInScope_restores_visitors : ∃ issued r scope' e',
    (visitors.parse none visitSource).1 = .ok issued ∧ visitors.Builtin ∧
      issued.template.Builtin ∧
      visitors.renderInScope {} visitScope issued.template = (r, scope', e') ∧
      (Dict.find? "last" scope'.root).isSome ∧
      scope'.depth = visitScope.depth ∧ scope'.inner = visitScope.inner ∧
      scope'.strict = visitScope.strict ∧
      (∀ key, key ≠ "blocks" → scope'.register? key = visitScope.register? key) ∧
      ∀ name, Dict.find? name scope'.root ≠ Dict.find? name visitScope.root →
        ∃ u, Template.Rendered visitors.setup (visitors.filtersFor {}) issued.template
          ⟨visitScope, visitors.store⟩ u ∧ name ∈ Node.boundAll u.nodes := by
  have hcheck : (visitors.parse none visitSource).1.toOption.map (fun issued =>
      (Dict.find? "last" (visitors.renderInScope {} visitScope issued.template).2.1.root).isSome) =
        some true := by
    decide +kernel
  obtain ⟨issued, hparse, hlast⟩ := exists_ok_of_map_toOption hcheck
  have he : visitors.Builtin := builtin_ofSources _ _
  have ht : issued.template.Builtin := (he.parse none visitSource).2 issued hparse
  exact ⟨issued, _, _, _, hparse, he, ht, rfl, hlast, renderInScope_restores he ht rfl⟩

end Engine

end Stencil
