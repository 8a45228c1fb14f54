import Stencil.Proofs.Render.Origins

/-!
# Inclusions without parameters

An inclusion without parameters renders a template within a frame that binds nothing.  No variable
is found in such a frame, and built-in tags only bind in the frames that they push themselves and
in the root; so two runs whose scopes differ in empty frames below the innermost ones have the
same outcome and go on differing in these frames alone (`Render.Padded`, `padded_renderIn`).  The
same comparison with no further frames tells that a higher bound on how deep templates include
each other changes nothing for a run that keeps to the lower one (`run_renderIn_of_le`).  Together
with the errors having places already when they leave the template, an inclusion without
parameters is rendered like the nodes of the template in its place (`Engine.inclusion_inlines`).
-/

set_option autoImplicit false

namespace Stencil

open Template (fetch inclusionBound renderIn)

/-- Two scopes that tell no difference to expressions. -/
structure Scope.Alike (s s' : Scope) : Prop where
  find : ∀ name, s'.find? name = s.find? name
  strict : s'.strict = s.strict

section Values

variable {s s' : Scope}

mutual

/-- An operand has one value in scopes that are alike. -/
theorem Operand.eval_congr (h : s.Alike s') (o : Operand) : o.eval s' = o.eval s := by
  cases o with
  | literal v => rw [Operand.eval, Operand.eval]
  | range first last =>
    rw [Operand.eval, Operand.eval, first.eval_congr h, last.eval_congr h]
  | path p => rw [Operand.eval, Operand.eval, p.find?_congr h, h.strict]

/-- A path is found alike in scopes that are alike. -/
theorem Path.find?_congr (h : s.Alike s') (p : Path) : p.find? s' = p.find? s := by
  cases p with
  | var name => rw [Path.find?, Path.find?, h.find name]
  | lookup name =>
    have hfind : s'.find? = s.find? := funext h.find
    rw [Path.find?, Path.find?, name.eval_congr h, hfind]
  | field base name => rw [Path.find?, Path.find?, base.find?_congr h]
  | item base key => rw [Path.find?, Path.find?, base.find?_congr h, key.eval_congr h]

end

/-- A condition holds alike in scopes that are alike. -/
theorem Condition.eval_congr (h : s.Alike s') (c : Condition) : c.eval s' = c.eval s := by
  induction c with
  | test operand => rw [Condition.eval, Condition.eval, operand.eval_congr h]
  | compare left comparison right =>
    rw [Condition.eval, Condition.eval, left.eval_congr h, right.eval_congr h]
  | and left right ihl ihr => rw [Condition.eval, Condition.eval, ihl, ihr]
  | or left right ihl ihr => rw [Condition.eval, Condition.eval, ihl, ihr]

/-- An output has one value in scopes that are alike. -/
theorem Output.eval_congr (filters : Filters) (h : s.Alike s') (o : Output) :
    o.eval filters s' = o.eval filters s := by
  have hargs : Operand.eval s' = Operand.eval s := funext (Operand.eval_congr h)
  have hcall : FilterCall.apply filters s' = FilterCall.apply filters s := by
    funext input call
    rw [FilterCall.apply, FilterCall.apply, hargs]
  rw [Output.eval, Output.eval, o.operand.eval_congr h, hcall]

end Values

/-- Two runs side by side: in the second one, frames that bind nothing lie on top of some frames. -/
structure Padding where
  base : List (Dict Value)
  extra : List (Dict Value)
  empty : ∀ frame ∈ extra, frame = []
  /-- The first run may stop since templates include each other too deeply. -/
  stops : Prop

namespace Padding

/-- Two states are equal, but for the further frames of the second one below its `k` innermost ones.
-/
structure Related (c : Padding) (k : Nat) (s s' : Rendering) : Prop where
  scope : ∃ above, above.length = k ∧ s.scope.inner = above ++ c.base ∧
    s'.scope = { s.scope with inner := above ++ (c.extra ++ c.base) }
  store : s'.store = s.store
  builtin : s.store.Builtin

variable {c : Padding} {k : Nat} {s s' : Rendering}

/-- The extra frames hold no variables. -/
theorem findSome?_extra (c : Padding) (name : String) :
    c.extra.findSome? (Dict.find? name) = none := by
  rw [List.findSome?_eq_none_iff]
  intro frame hframe
  rw [c.empty frame hframe]
  rfl

namespace Related

/-- No variable is found in a frame that binds nothing. -/
theorem alike (h : c.Related k s s') : s.scope.Alike s'.scope := by
  obtain ⟨above, -, hinner, hscope⟩ := h.scope
  rw [hscope]
  refine ⟨fun name => ?_, rfl⟩
  unfold Scope.find?
  dsimp only
  rw [hinner, List.findSome?_append, List.findSome?_append, List.findSome?_append,
    c.findSome?_extra, Option.none_or]

/-- Related states have the same registers. -/
theorem registers (h : c.Related k s s') : s'.scope.registers = s.scope.registers := by
  obtain ⟨above, -, -, hscope⟩ := h.scope
  rw [hscope]

/-- Binding a variable in both root frames keeps states related. -/
theorem setRoot (h : c.Related k s s') (name : String) (v : Value) :
    c.Related k (s.withScope (Scope.setRoot · name v)) (s'.withScope (Scope.setRoot · name v)) := by
  obtain ⟨above, hlength, hinner, hscope⟩ := h.scope
  refine ⟨⟨above, hlength, hinner, ?_⟩, h.store, h.builtin⟩
  show s'.scope.setRoot name v = _
  rw [hscope]
  rfl

/-- An entry in both registers keeps states related. -/
theorem insertInRegister (h : c.Related k s s') (key name : String) (v : Value) :
    c.Related k (s.withScope (Scope.insertInRegister · key name v))
      (s'.withScope (Scope.insertInRegister · key name v)) := by
  obtain ⟨above, hlength, hinner, hscope⟩ := h.scope
  refine ⟨⟨above, hlength, hinner, ?_⟩, h.store, h.builtin⟩
  show s'.scope.insertInRegister key name v = _
  rw [hscope]
  rfl

/-- A variable is bound in the innermost frame, which is none of the further ones. -/
theorem set (h : c.Related (k + 1) s s') (name : String) (v : Value) :
    c.Related (k + 1) (s.withScope (Scope.set · name v)) (s'.withScope (Scope.set · name v)) := by
  obtain ⟨above, hlength, hinner, hscope⟩ := h.scope
  obtain ⟨frame, above, rfl⟩ := List.exists_cons_of_length_eq_add_one hlength
  have hset : (s.withScope (Scope.set · name v)).scope =
      { s.scope with inner := Dict.insert name v frame :: (above ++ c.base) } := by
    show s.scope.set name v = _
    rw [Scope.set, hinner]
    rfl
  refine ⟨⟨Dict.insert name v frame :: above, hlength, congrArg Scope.inner hset, ?_⟩, h.store,
    h.builtin⟩
  rw [hset]
  show s'.scope.set name v = _
  rw [hscope]
  rfl

/-- A frame that is pushed in both states is one more in front of the extra ones. -/
theorem push (h : c.Related k s s') (frame : Dict Value) :
    c.Related (k + 1) (s.withScope (Scope.push · frame)) (s'.withScope (Scope.push · frame)) := by
  obtain ⟨above, hlength, hinner, hscope⟩ := h.scope
  refine ⟨⟨frame :: above, congrArg (· + 1) hlength, congrArg (frame :: ·) hinner, ?_⟩, h.store,
    h.builtin⟩
  show s'.scope.push frame = _
  rw [hscope]
  rfl

/-- A frame that is taken off in both states is one fewer in front of the extra ones. -/
theorem pop (h : c.Related (k + 1) s s') :
    c.Related k (s.withScope Scope.pop) (s'.withScope Scope.pop) := by
  obtain ⟨above, hlength, hinner, hscope⟩ := h.scope
  obtain ⟨frame, above, rfl⟩ := List.exists_cons_of_length_eq_add_one hlength
  refine ⟨⟨above, Nat.succ.inj hlength, congrArg List.tail hinner, ?_⟩, h.store, h.builtin⟩
  show s'.scope.pop = _
  rw [hscope]
  rfl

/-- With no frames above, the further frames are the innermost ones. -/
theorem eq_of_zero (h : c.Related 0 s s') :
    s' = s.withScope fun scope => { scope with inner := c.extra ++ scope.inner } := by
  obtain ⟨above, hlength, hinner, hscope⟩ := h.scope
  have hstore := h.store
  rw [List.eq_nil_of_length_eq_zero hlength] at hinner hscope
  obtain ⟨scope, store⟩ := s
  obtain ⟨scope', store'⟩ := s'
  show Rendering.mk scope' store' = ⟨{ scope with inner := c.extra ++ scope.inner }, store⟩
  rw [show store' = store from hstore, show scope.inner = c.base from hinner]
  exact congrArg (Rendering.mk · store) hscope

end Related

end Padding

namespace Render

/-- Run in states that differ in further frames below the `k` innermost ones, two actions have the
same outcome and end in such states; or the first one may stop, and does. -/
def Padded {α : Type} (c : Padding) (k : Nat) (a b : Render α) : Prop :=
  ∀ s s', c.Related k s s' → (c.stops ∧ (a.run.run s).1 = .error .tooDeep) ∨
    (b.run.run s').1 = (a.run.run s).1 ∧ c.Related k (a.run.run s).2 (b.run.run s').2

section Padded

variable {c : Padding} {k : Nat} {α β : Type}

/-- A result is the same with extra frames. -/
theorem padded_pure (x : α) : Padded c k (pure x) (pure x) :=
  fun _ _ hs => .inr ⟨rfl, hs⟩

/-- An error is the same with extra frames. -/
theorem padded_throw (e : Error) : Padded c k (throw e : Render α) (throw e) :=
  fun _ _ hs => .inr ⟨rfl, hs⟩

/-- A sequence is the same with extra frames if its second step is for the results that the first
one has. -/
theorem padded_bind_of {p : α → Prop} {a b : Render α} {f g : α → Render β} (h : Padded c k a b)
    (hp : ∀ s x s', s.store.Builtin → a.run.run s = (.ok x, s') → p x)
    (hf : ∀ x, p x → Padded c k (f x) (g x)) : Padded c k (a >>= f) (b >>= g) := by
  intro s s' hs
  rw [run_bind, run_bind]
  rcases ha : a.run.run s with ⟨r, t⟩
  rcases hb : b.run.run s' with ⟨r', t'⟩
  have hab := h s s' hs
  rw [ha, hb] at hab
  obtain ⟨hstops, hr⟩ | ⟨hr, ht⟩ := hab
  · cases hr
    exact .inl ⟨hstops, rfl⟩
  · cases hr
    cases r with
    | error e => exact .inr ⟨rfl, ht⟩
    | ok x => exact hf x (hp s x t hs.builtin ha) t t' ht

/-- A sequence is the same with extra frames if its steps are. -/
theorem padded_bind {a b : Render α} {f g : α → Render β} (h : Padded c k a b)
    (hf : ∀ x, Padded c k (f x) (g x)) : Padded c k (a >>= f) (b >>= g) :=
  padded_bind_of (p := fun _ => True) h (fun _ _ _ _ _ => trivial) fun x _ => hf x

/-- An evaluation is the same with extra frames if it does not see them. -/
theorem padded_eval {f : Scope → Except Error α} (h : ∀ s s', s.Alike s' → f s' = f s) :
    Padded c k (eval f) (eval f) :=
  fun s s' hs => .inr ⟨h s.scope s'.scope hs.alike, hs⟩

/-- A change of the scope is the same with extra frames if it keeps states related. -/
theorem padded_modifyScope {f : Scope → Scope}
    (h : ∀ s s', c.Related k s s' → c.Related k (s.withScope f) (s'.withScope f)) :
    Padded c k (modifyScope f) (modifyScope f) :=
  fun s s' hs => .inr ⟨rfl, h s s' hs⟩

/-- Loading is the same with extra frames. -/
theorem padded_load {p : α → Prop} {action : Loading α} (h : Loading.Sound p action) :
    Padded c k (load action) (load action) := by
  intro s s' hs
  refine .inr ⟨?_, hs.scope, ?_, (h s.store hs.builtin).1⟩
  · show (action.run.run s'.store).1 = _
    rw [hs.store]
    rfl
  · show (action.run.run s'.store).2 = _
    rw [hs.store]
    rfl

/-- Within a frame, an action is the same with extra frames. -/
theorem padded_within {a b : Render α} (h : Padded c (k + 1) a b) (frame : Dict Value) :
    Padded c k (within frame a) (within frame b) := by
  intro s s' hs
  obtain ⟨hstops, hr⟩ | ⟨hr, ht⟩ := h _ _ (hs.push frame)
  · exact .inl ⟨hstops, hr⟩
  · exact .inr ⟨hr, ht.pop⟩

/-- What turns the outcome of an action into another one, and lets a stop through, is padded. -/
theorem padded_outcome {a b : Render α} {a' b' : Render β} (h : Padded c k a b)
    {f : Except Error α → Except Error β}
    (ha : ∀ s, a'.run.run s = (f (a.run.run s).1, (a.run.run s).2))
    (hb : ∀ s, b'.run.run s = (f (b.run.run s).1, (b.run.run s).2))
    (hf : f (.error .tooDeep) = .error .tooDeep) : Padded c k a' b' := by
  intro s s' hs
  rw [ha, hb]
  obtain ⟨hstops, hr⟩ | ⟨hr, ht⟩ := h s s' hs
  · rw [hr]
    exact .inl ⟨hstops, hf⟩
  · rw [hr]
    exact .inr ⟨rfl, ht⟩

/-- With a place, an action is the same with extra frames. -/
theorem padded_located {a b : Render α} (h : Padded c k a b) (p : Position) :
    Padded c k (located p a) (located p b) :=
  padded_outcome h (run_located p a) (run_located p b) rfl

/-- Behind a text, an action is the same with extra frames. -/
theorem padded_after {a b : Render String} (h : Padded c k a b) (text : String) :
    Padded c k (after text a) (after text b) :=
  padded_outcome h (run_after text a) (run_after text b) rfl

/-- A round of a loop is the same with extra frames. -/
theorem padded_round {a b : Render String} (h : Padded c k a b) :
    Padded c k (round a) (round b) :=
  padded_outcome h (run_round a) (run_round b) rfl

/-- Some bodies are padded, whatever the number of the frames above. -/
def AllPadded (c : Padding) (bodies bodies' : List (Render String)) : Prop :=
  List.Forall₂ (fun a b => ∀ k, Padded c k a b) bodies bodies'

variable {bodies bodies' : List (Render String)}

/-- A body of a tag is the same with extra frames. -/
theorem padded_bodyAt (h : AllPadded c bodies bodies') (i : Nat) :
    Padded c k (bodyAt bodies i) (bodyAt bodies' i) := by
  induction h generalizing i with
  | nil => exact padded_pure ""
  | cons h _ ih =>
    cases i with
    | zero => exact h k
    | succ i => exact ih i

/-- The first body whose condition holds is the same with extra frames. -/
theorem padded_firstHolding (h : AllPadded c bodies bodies') (conditions : List Condition) :
    Padded c k (firstHolding conditions bodies) (firstHolding conditions bodies') := by
  induction conditions generalizing bodies bodies' with
  | nil => exact padded_bodyAt h 0
  | cons cond conditions ih =>
    cases h with
    | nil => exact padded_pure ""
    | cons hbody hrest =>
      apply padded_bind (padded_eval fun _ _ h => cond.eval_congr h)
      intro holds
      cases holds with
      | true => exact hbody k
      | false => exact ih hrest

/-- A block is the same with extra frames. -/
theorem padded_block {a b : Render String} (h : Padded c k a b) (name : String) :
    Padded c k (block name a) (block name b) := by
  intro s s' hs
  rw [block, block, run_bind, run_bind, run_get, run_get]
  dsimp only
  have hobject : s'.scope.registerObject blockRegister = s.scope.registerObject blockRegister := by
    unfold Scope.registerObject Scope.register?
    rw [hs.registers]
  rw [hobject]
  split
  · exact padded_pure _ s s' hs
  · refine padded_bind h (fun text => ?_) s s' hs
    apply padded_bind (padded_modifyScope fun _ _ h => h.insertInRegister _ name _)
    intro _
    exact padded_pure text

end Padded

end Render

open Render

section Heads

variable {c : Padding} {k : Nat} {bodies bodies' : List (Render String)}

/-- The value of an operand is the same with extra frames. -/
theorem padded_operand (o : Operand) : Padded c k (eval o.eval) (eval o.eval) :=
  padded_eval fun _ _ h => o.eval_congr h

/-- The frame of an inclusion is the same with extra frames. -/
theorem padded_paramFrame (params : List (String × Operand)) :
    Padded c k (paramFrame params) (paramFrame params) := by
  unfold paramFrame
  generalize ([] : Dict Value) = frame
  induction params generalizing frame with
  | nil => exact padded_pure frame
  | cons p params ih =>
    rw [List.foldlM_cons, bind_assoc]
    apply padded_bind (padded_operand p.2)
    intro value
    rw [pure_bind]
    exact ih _

namespace Loop

/-- The count of a loop is the same with extra frames. -/
theorem padded_count (operand : Option Operand) : Padded c k (count operand) (count operand) := by
  cases operand with
  | none => exact padded_pure none
  | some o =>
    apply padded_bind (padded_operand o)
    intro v
    cases v with
    | number n => exact padded_pure _
    | null => exact padded_pure _
    | _ => exact padded_throw _

/-- The items that a loop visits are the same with extra frames. -/
theorem padded_visited (l : Loop) : Padded c k l.visited l.visited := by
  apply padded_bind (padded_operand l.collection)
  intro v
  apply padded_bind (padded_count l.offset)
  intro offset
  apply padded_bind (padded_count l.limit)
  intro limit
  exact padded_pure _

/-- The rounds of a loop bind in its own frame. -/
theorem padded_rounds {a b : Render String} (h : Padded c (k + 1) a b) (var : String)
    (length index : Nat) (items : List Value) :
    Padded c (k + 1) (rounds var length a index items) (rounds var length b index items) := by
  induction items generalizing index with
  | nil => exact padded_pure ""
  | cons item rest ih =>
    have hset : Padded c (k + 1)
        (modifyScope fun scope => (scope.set var item).set "forloop" (state index length))
        (modifyScope fun scope => (scope.set var item).set "forloop" (state index length)) := by
      apply padded_modifyScope
      intro s s' hs
      exact (hs.set var item).set "forloop" (state index length)
    apply padded_bind hset
    intro _
    apply padded_bind (padded_round h)
    rintro ⟨text, goesOn⟩
    cases goesOn with
    | false => exact padded_pure text
    | true =>
      apply padded_bind (ih (index + 1))
      intro more
      exact padded_pure _

/-- A loop is the same with extra frames. -/
theorem padded_render (h : AllPadded c bodies bodies') (l : Loop) :
    Padded c k (l.render bodies) (l.render bodies') := by
  rw [render_eq, render_eq]
  apply padded_bind l.padded_visited
  intro items
  split
  · exact padded_bodyAt h 1
  · exact padded_within (padded_rounds (padded_bodyAt h 0) _ _ _ _) []

end Loop

/-- A tag is padded if its bodies are, and if it is where it is an inclusion. -/
theorem Head.padded_render {filters : Filters} {fetch fetch' : String → Render (Render String)}
    {head : Head} (hbuiltin : head.Builtin) (h : AllPadded c bodies bodies')
    (hinclusion : ∀ name params, head = .inclusion name params →
      Padded c k (head.render filters fetch bodies) (head.render filters fetch' bodies')) :
    Padded c k (head.render filters fetch bodies) (head.render filters fetch' bodies') := by
  cases head with
  | layout | text => exact padded_pure _
  | signal => exact padded_throw _
  | inclusion name params => exact hinclusion name params rfl
  | block name => exact padded_block (padded_bodyAt h 0) name
  | assign name value =>
    apply padded_bind (padded_eval fun _ _ h => value.eval_congr filters h)
    intro v
    apply padded_bind (padded_modifyScope fun _ _ h => h.setRoot name v)
    intro _
    exact padded_pure ""
  | capture name =>
    apply padded_bind (padded_bodyAt h 0)
    intro text
    apply padded_bind (padded_modifyScope fun _ _ h => h.setRoot name _)
    intro _
    exact padded_pure ""
  | conditional conditions => exact padded_firstHolding h conditions
  | negated cond =>
    apply padded_bind (padded_eval fun _ _ h => cond.eval_congr h)
    intro holds
    cases holds with
    | true => exact padded_bodyAt h 1
    | false => exact padded_bodyAt h 0
  | loop l => exact l.padded_render h
  | script | region => exact hbuiltin.elim

end Heads

section Nodes

variable {c : Padding} {setup : Setup} {filters : Filters} {n m : Nat}

/-- Templates of built-in tags that include each other at most `n` deep in the first run and `m`
deep in the second one are padded. -/
def PaddedIn (c : Padding) (setup : Setup) (filters : Filters) (n m : Nat) : Prop :=
  ∀ nodes, Node.BuiltinAll nodes →
    ∀ k, Padded c k (renderIn setup filters n nodes) (renderIn setup filters m nodes)

/-- An inclusion is the same with extra frames if its template is. -/
theorem padded_inclusion (htags : setup.tags = TagKind.builtin)
    (h : PaddedIn c setup filters n m) (k : Nat) (name : Operand)
    (params : List (String × Operand)) (bodies bodies' : List (Render String)) :
    Padded c k ((Head.inclusion name params).render filters (fetch setup filters n) bodies)
      ((Head.inclusion name params).render filters (fetch setup filters m) bodies') := by
  apply padded_bind (padded_operand name)
  intro v
  simp only [fetch, bind_assoc, pure_bind]
  have hsound := Setup.sound_getTemplate htags v.text
  apply padded_bind_of (padded_load hsound)
  · intro s issued s' hs hrun
    exact (hsound s.store hs).2 issued (congrArg Prod.fst hrun)
  · intro issued hissued
    apply padded_bind (padded_paramFrame params)
    intro frame
    exact padded_within (h _ hissued (k + 1)) frame

mutual

/-- A node is rendered the same with extra frames, by induction on the node. -/
theorem Node.padded_render (htags : setup.tags = TagKind.builtin)
    (h : PaddedIn c setup filters n m) {node : Node} (hnode : node.Builtin) (k : Nat) :
    Padded c k (node.render filters (fetch setup filters n))
      (node.render filters (fetch setup filters m)) := by
  cases node with
  | literal t => exact padded_pure t.value
  | output o t =>
    apply padded_located
    apply padded_bind (padded_eval fun _ _ h => o.eval_congr filters h)
    intro v
    exact padded_pure v.text
  | tag head bodies t =>
    apply padded_located
    apply Head.padded_render hnode.1 (Node.padded_renderBodies htags h hnode.2)
    rintro name params rfl
    exact padded_inclusion htags h k name params _ _

/-- Nodes are rendered the same with extra frames, by induction on the nodes. -/
theorem Node.padded_renderAll (htags : setup.tags = TagKind.builtin)
    (h : PaddedIn c setup filters n m) {nodes : List Node} (hnodes : BuiltinAll nodes) (k : Nat) :
    Padded c k (renderAll filters (fetch setup filters n) nodes)
      (renderAll filters (fetch setup filters m) nodes) := by
  cases nodes with
  | nil => exact padded_pure ""
  | cons node rest =>
    apply padded_bind (Node.padded_render htags h hnodes.1 k)
    intro text
    exact padded_after (Node.padded_renderAll htags h hnodes.2 k) text

/-- Bodies are rendered the same with extra frames, by induction on the bodies. -/
theorem Node.padded_renderBodies (htags : setup.tags = TagKind.builtin)
    (h : PaddedIn c setup filters n m) {bodies : List (List Node)}
    (hbodies : BuiltinInBodies bodies) :
    AllPadded c (renderBodies filters (fetch setup filters n) bodies)
      (renderBodies filters (fetch setup filters m) bodies) := by
  cases bodies with
  | nil => exact .nil
  | cons body rest =>
    exact .cons (Node.padded_renderAll htags h hbodies.1)
      (Node.padded_renderBodies htags h hbodies.2)

end

/-- Templates are padded if the first run may stop where its bound is the lower one. -/
theorem padded_renderIn (htags : setup.tags = TagKind.builtin) (hle : n ≤ m)
    (hstops : n < m → c.stops) : PaddedIn c setup filters n m := by
  induction n generalizing m with
  | zero =>
    intro nodes _ k s s' hs
    cases m with
    | zero => exact padded_throw .tooDeep s s' hs
    | succ m => exact .inl ⟨hstops (Nat.succ_pos m), rfl⟩
  | succ n ih =>
    intro nodes hnodes k
    cases m with
    | zero => exact absurd hle (Nat.not_succ_le_zero n)
    | succ m =>
      have hinner : PaddedIn c setup filters n m :=
        ih (Nat.le_of_succ_le_succ hle) fun hlt => hstops (Nat.succ_lt_succ hlt)
      exact Node.padded_renderAll htags hinner hnodes k

variable {nodes : List Node} {s : Rendering}

/-- A frame that binds nothing changes nothing. -/
theorem run_renderIn_push (htags : setup.tags = TagKind.builtin) (hnodes : Node.BuiltinAll nodes)
    (hs : s.store.Builtin) :
    (renderIn setup filters n nodes).run.run (s.withScope (Scope.push · [])) =
      Prod.map id (Rendering.withScope · (Scope.push · []))
        ((renderIn setup filters n nodes).run.run s) := by
  let c : Padding :=
    { base := s.scope.inner, extra := [[]], empty := by simp, stops := False }
  have hstart : c.Related 0 s (s.withScope (Scope.push · [])) := ⟨⟨[], rfl, rfl, rfl⟩, rfl, hs⟩
  have hpadded : PaddedIn c setup filters n n :=
    padded_renderIn htags (Nat.le_refl n) fun h => (Nat.lt_irrefl n h).elim
  obtain ⟨hstops, -⟩ | ⟨hr, hend⟩ := hpadded nodes hnodes 0 s _ hstart
  · exact hstops.elim
  · exact Prod.ext hr hend.eq_of_zero

/-- A run that keeps to a bound on how deep templates include each other is the run under every
higher one. -/
theorem run_renderIn_of_le (htags : setup.tags = TagKind.builtin) (hnodes : Node.BuiltinAll nodes)
    (hs : s.store.Builtin) (hle : n ≤ m)
    (hends : ((renderIn setup filters n nodes).run.run s).1 ≠ .error .tooDeep) :
    (renderIn setup filters m nodes).run.run s = (renderIn setup filters n nodes).run.run s := by
  let c : Padding := { base := s.scope.inner, extra := [], empty := by simp, stops := True }
  have hstart : c.Related 0 s s := ⟨⟨[], rfl, rfl, rfl⟩, rfl, hs⟩
  have hpadded : PaddedIn c setup filters n m := padded_renderIn htags hle fun _ => trivial
  obtain ⟨-, hr⟩ | ⟨hr, hend⟩ := hpadded nodes hnodes 0 s s hstart
  · exact absurd hr hends
  · exact Prod.ext hr hend.eq_of_zero

/-- An inclusion without parameters is the rendering of the nodes of its template in its place. -/
theorem run_inclusion_eq (htags : setup.tags = TagKind.builtin) (hs : s.store.Builtin)
    {name : Operand} {v : Value} {issued : Issued} {s₁ : Rendering}
    (hname : name.eval s.scope = .ok v)
    (hload : (load (setup.getTemplate v.text)).run.run s = (.ok issued, s₁))
    (bodies : List (List Node)) (token : Token) :
    ((Node.tag (.inclusion name []) bodies token).render filters
      (fetch setup filters n)).run.run s =
        (renderIn setup filters n issued.template.nodes).run.run s₁ := by
  have hsound := Setup.sound_getTemplate htags v.text s.store hs
  have hissued : issued.template.Builtin := hsound.2 issued (congrArg Prod.fst hload)
  have hs₁ : s₁.store.Builtin := by
    have hstore := hsound.1
    rw [show ((setup.getTemplate v.text).run.run s.store).2 = s₁.store from
      congrArg (Rendering.store ∘ Prod.snd) hload] at hstore
    exact hstore
  have hinclusion : ((Head.inclusion name []).render filters (fetch setup filters n)
      (Node.renderBodies filters (fetch setup filters n) bodies)).run.run s =
        (renderIn setup filters n issued.template.nodes).run.run s₁ := by
    have hframe : (paramFrame []).run.run s₁ = (.ok [], s₁) := rfl
    rw [run_inclusion hname hload hframe, run_renderIn_push htags hissued hs₁]
    rfl
  have hplace : Fails Error.HasPlace
      ((renderIn setup filters n issued.template.nodes).run.run s₁).1 :=
    Point.hasPlace_run setup filters ⟨issued.template, n, issued.template.nodes, s₁⟩
  rw [← hinclusion] at hplace ⊢
  exact run_located_of_hasPlace hplace token.position

end Nodes

namespace Engine

/-- The outcome of a node in a scope, and the state that is left, when templates may include each
other `n` deep. -/
def runNode (e : Engine) (options : Options) (n : Nat) (scope : Scope) (node : Node) :
    Except Error String × Rendering :=
  (node.render (e.filtersFor options) (fetch e.setup (e.filtersFor options) n)).run.run
    ⟨scope, e.store⟩

/-- The outcome of some nodes in a scope, and the state that is left, when they are rendered as a
template that may be included, and templates may include each other `n` deep. -/
def runNodes (e : Engine) (options : Options) (n : Nat) (scope : Scope) (nodes : List Node) :
    Except Error String × Rendering :=
  (renderIn e.setup (e.filtersFor options) n nodes).run.run ⟨scope, e.store⟩

/-- For a run that keeps to its bound on how deep templates include each other, it makes no
difference whether a template is included without parameters or whether its nodes are rendered in
the place of the inclusion, once it is loaded: the outcome is the same, with the places of errors
and the texts of signals, and so are the scope and the store afterwards. -/
theorem inclusion_inlines {e e' : Engine} (he : e.Builtin) (options : Options) {scope : Scope}
    {name : Operand} {v : Value} {issued : Issued} (hname : name.eval scope = .ok v)
    (hload : e.getTemplate v.text = (.ok issued, e')) (bodies : List (List Node)) (token : Token)
    (n m : Nat) :
    (n ≤ m →
      (e.runNode options n scope (.tag (.inclusion name []) bodies token)).1 ≠ .error .tooDeep →
        e'.runNodes options m scope issued.template.nodes =
          e.runNode options n scope (.tag (.inclusion name []) bodies token)) ∧
      (m ≤ n → (e'.runNodes options m scope issued.template.nodes).1 ≠ .error .tooDeep →
        e.runNode options n scope (.tag (.inclusion name []) bodies token) =
          e'.runNodes options m scope issued.template.nodes) := by
  have hissued : issued.template.Builtin :=
    (he.getTemplate v.text).2 issued (congrArg Prod.fst hload)
  have he' : e'.Builtin := by
    have hlater := (he.getTemplate v.text).1
    rw [hload] at hlater
    exact hlater
  have hsetup : e'.setup = e.setup := (congrArg (fun outcome => outcome.2.setup) hload).symm
  have hfilters : e'.filtersFor options = e.filtersFor options :=
    (congrArg (fun outcome => outcome.2.filtersFor options) hload).symm
  have hrun : (Render.load (e.setup.getTemplate v.text)).run.run ⟨scope, e.store⟩ =
      (.ok issued, ⟨scope, e'.store⟩) := by
    show ((e.getTemplate v.text).1, Rendering.mk scope (e.getTemplate v.text).2.store) = _
    rw [hload]
  -- at the bound of the inclusion both runs are the same
  have hsame : e.runNode options n scope (.tag (.inclusion name []) bodies token) =
      e'.runNodes options n scope issued.template.nodes := by
    unfold runNode runNodes
    rw [hsetup, hfilters]
    exact run_inclusion_eq he.tags he.store hname hrun bodies token
  rw [hsame]
  exact ⟨fun hle hends => run_renderIn_of_le he'.tags hissued he'.store hle hends,
    fun hle hends => run_renderIn_of_le he'.tags hissued he'.store hle hends⟩

/-- An engine with a template that includes another one in every round of a loop. -/
def menus : Engine :=
  ofSources {} [("dish.liquid", "\x7b\x7b forloop.index \x7d\x7d\x7b\x7b dish \x7d\x7d"),
    ("menu.liquid", "\x7b% for dish in list %\x7d\x7b% assign last = dish %\x7d" ++
      "\x7b% include 'dish' %\x7d\x7b% endfor %\x7d\x7b\x7b last \x7d\x7d")]

/-- A scope with a frame inside the root that binds the variable of the loop. -/
def menuScope : Scope where
  root := [("list", .array [.string "a", .string "b"])]
  inner := [[("dish", .string "c")]]

/-- A template that itself includes one with a parameter in a loop renders as its nodes in place. -/
theorem inclusion_inlines_menus : ∃ issued e' token,
    (Operand.literal (.string "menu")).eval menuScope = .ok (.string "menu") ∧
      menus.getTemplate (Value.string "menu").text = (.ok issued, e') ∧ menus.Builtin ∧
      2 ≤ inclusionBound ∧
      (menus.runNode {} 2 menuScope
        (.tag (.inclusion (.literal (.string "menu")) []) [] token)).1.toOption = some "1a2bb" ∧
      e'.runNodes {} inclusionBound menuScope issued.template.nodes =
        menus.runNode {} 2 menuScope
          (.tag (.inclusion (.literal (.string "menu")) []) [] token) := by
  have hcheck : (menus.getTemplate (Value.string "menu").text).1.toOption.map (fun _ => ()) =
      some () := by
    decide +kernel
  obtain ⟨issued, hload, -⟩ := exists_ok_of_map_toOption hcheck
  have htext : (menus.runNode {} 2 menuScope (.tag (.inclusion (.literal (.string "menu")) []) []
      (Token.literal "" {}))).1.toOption = some "1a2bb" := by
    decide +kernel
  have hname : (Operand.literal (.string "menu")).eval menuScope = .ok (.string "menu") := by
    rw [Operand.eval]
  have he : menus.Builtin := builtin_ofSources _ _
  have hinlines := (inclusion_inlines he {} hname (Prod.ext hload rfl) []
    (Token.literal "" {}) 2 inclusionBound).1
  refine ⟨issued, _, _, hname, Prod.ext hload rfl, he, by decide, htext, hinlines (by decide) ?_⟩
  intro hdeep
  rw [hdeep] at htext
  cases htext

end Engine

end Stencil
