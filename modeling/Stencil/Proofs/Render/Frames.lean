import Mathlib.Data.List.Forall2
import Stencil.Proofs.Render.Restoring

/-!
# The frames around a point

A rendering comes to a point through loops and inclusions, each of which has a frame of its own
(`Framed`).  The frame of a loop binds its variable and `forloop`, and that of an inclusion its
parameters, and nothing else is ever bound in them: the frames of the scope at the point bind these
names and lie inside the frames that the rendering began with (`Framed.surrounded`).  So the tags
around a point tell which variables of the root frame are hidden there
(`Surrounded.findSome?_eq_none_iff`).
-/

set_option autoImplicit false

namespace Stencil

/-- The names that a tag binds in a frame around the body of a number, if it has one. -/
def Head.frame? : Head → Nat → Option (List String)
  | loop l, 0 => some [l.var, "forloop"]
  | _, _ => none

open Template (fetch)

/-- The rendering of a point comes to another one inside frames for the given names, innermost
first. -/
inductive Framed (setup : Setup) (filters : Filters) (p : Point) : List (List String) → Point → Prop
  | start : Framed setup filters p [] p
  | next {names : List (List String)} {t : Template} {n : Nat} {node : Node} {rest : List Node}
      {s s' : Rendering} {text : String}
      (h : Framed setup filters p names ⟨t, n + 1, node :: rest, s⟩)
      (hrun : (node.render filters (fetch setup filters n)).run.run s = (.ok text, s')) :
      Framed setup filters p names ⟨t, n + 1, rest, s'⟩
  | body {names : List (List String)} {t : Template} {n i : Nat} {head : Head}
      {bodies : List (List Node)} {token : Token} {rest body : List Node} {s s' : Rendering}
      (h : Framed setup filters p names ⟨t, n + 1, .tag head bodies token :: rest, s⟩)
      (henters : head.Enters (Node.renderBodies filters (fetch setup filters n) bodies) s i s')
      (hbody : bodies[i]? = some body) :
      Framed setup filters p ((head.frame? i).toList ++ names) ⟨t, n + 1, body, s'⟩
  | inclusion {names : List (List String)} {t : Template} {n : Nat} {name : Operand}
      {params : List (String × Operand)} {bodies : List (List Node)} {token : Token}
      {rest : List Node} {s s₁ s₂ : Rendering} {v : Value} {issued : Issued} {frame : Dict Value}
      (h : Framed setup filters p names
        ⟨t, n + 2, .tag (.inclusion name params) bodies token :: rest, s⟩)
      (hname : name.eval s.scope = .ok v)
      (hload : (Render.load (setup.getTemplate v.text)).run.run s = (.ok issued, s₁))
      (hframe : (paramFrame params).run.run s₁ = (.ok frame, s₂)) :
      Framed setup filters p (params.map Prod.fst :: names)
        ⟨issued.template, n + 1, issued.template.nodes, s₂.withScope (Scope.push · frame)⟩

section Reaching

variable {setup : Setup} {filters : Filters} {p q : Point}

/-- There are frames around every point that a rendering comes to. -/
theorem exists_framed (h : Relation.ReflTransGen (Leads setup filters) p q) :
    ∃ names, Framed setup filters p names q := by
  induction h with
  | refl => exact ⟨[], .start⟩
  | tail _ hstep ih =>
    obtain ⟨names, h⟩ := ih
    cases hstep with
    | next hrun => exact ⟨_, h.next hrun⟩
    | body henters hbody => exact ⟨_, h.body henters hbody⟩
    | inclusion hname hload hframe => exact ⟨_, h.inclusion hname hload hframe⟩

/-- A point inside frames is one that the rendering comes to. -/
theorem Framed.reaches {names : List (List String)} (h : Framed setup filters p names q) :
    Relation.ReflTransGen (Leads setup filters) p q := by
  induction h with
  | start => exact .refl
  | next _ hrun ih => exact ih.tail (.next hrun)
  | body _ henters hbody ih => exact ih.tail (.body henters hbody)
  | inclusion _ hname hload hframe ih => exact ih.tail (.inclusion hname hload hframe)

end Reaching

/-- A frame binds the given names and nothing else. -/
def FrameOf (frame : Dict Value) (names : List String) : Prop :=
  ∀ x, (Dict.find? x frame).isSome ↔ x ∈ names

/-- An empty frame binds no names. -/
theorem frameOf_nil : FrameOf [] [] := by
  intro x
  simp [Dict.find?]

/-- A frame with one more variable binds one more name. -/
theorem FrameOf.insert {frame : Dict Value} {names : List String} (h : FrameOf frame names)
    (name : String) (value : Value) : FrameOf (Dict.insert name value frame) (name :: names) := by
  intro x
  by_cases hx : x = name
  · rw [hx, Dict.find?_insert_self]
    simp
  · rw [Dict.find?_insert_of_ne hx, h x]
    simp [hx]

/-- Of the names of a frame, the order does not count. -/
theorem FrameOf.congr {frame : Dict Value} {names names' : List String} (h : FrameOf frame names)
    (hnames : ∀ x, x ∈ names ↔ x ∈ names') : FrameOf frame names' :=
  fun x => (h x).trans (hnames x)

/-- A state whose scope has frames for the given names, innermost first, inside the frames of
`base`. -/
structure Surrounded (base : List (Dict Value)) (names : List (List String)) (s : Rendering) :
    Prop where
  store : s.store.Builtin
  inner : ∃ frames, s.scope.inner = frames ++ base ∧ List.Forall₂ FrameOf frames names

namespace Surrounded

variable {base : List (Dict Value)} {names : List (List String)} {s s' : Rendering}

/-- A state whose frames are kept lies in the same frames. -/
theorem of_kept (h : Surrounded base names s) {bound : String → Prop} (hkept : s.Kept bound s') :
    Surrounded base names s' := by
  obtain ⟨frames, hinner, hframes⟩ := h.inner
  exact ⟨hkept.store, frames, hkept.scope.inner.trans hinner, hframes⟩

/-- A frame that is pushed is the innermost one. -/
theorem push (h : Surrounded base names s) {frame : Dict Value} {own : List String}
    (hframe : FrameOf frame own) :
    Surrounded base (own :: names) (s.withScope (Scope.push · frame)) := by
  obtain ⟨frames, hinner, hframes⟩ := h.inner
  exact ⟨h.store, frame :: frames, congrArg (frame :: ·) hinner, .cons hframe hframes⟩

/-- A variable that is bound adds its name to the innermost frame. -/
theorem set {own : List String} (h : Surrounded base (own :: names) s) (name : String)
    (value : Value) :
    Surrounded base ((name :: own) :: names) (s.withScope (Scope.set · name value)) := by
  obtain ⟨frames, hinner, hframes⟩ := h.inner
  cases hframes with
  | @cons frame _ frames _ hframe hframes =>
    refine ⟨h.store, Dict.insert name value frame :: frames, ?_, .cons (hframe.insert name value) hframes⟩
    show (s.scope.set name value).inner = _
    rw [Scope.set, hinner]
    rfl

/-- Of the names of the innermost frame, the order does not count. -/
theorem congr {own own' : List String} (h : Surrounded base (own :: names) s)
    (hown : ∀ x, x ∈ own ↔ x ∈ own') : Surrounded base (own' :: names) s := by
  obtain ⟨frames, hinner, hframes⟩ := h.inner
  cases hframes with
  | cons hframe hframes => exact ⟨h.store, _, hinner, .cons (hframe.congr hown) hframes⟩

/-- A variable is hidden by the frames of the given names that hold it, and by those of `base`. -/
theorem findSome?_eq_none_iff (h : Surrounded base names s) (x : String) :
    s.scope.inner.findSome? (Dict.find? x) = none ↔
      (∀ own ∈ names, x ∉ own) ∧ base.findSome? (Dict.find? x) = none := by
  obtain ⟨frames, hinner, hframes⟩ := h.inner
  have hfree : (∀ frame ∈ frames, Dict.find? x frame = none) ↔ ∀ own ∈ names, x ∉ own := by
    clear hinner h
    induction hframes with
    | nil => simp
    | cons hframe _ ih =>
      rw [List.forall_mem_cons, List.forall_mem_cons, ih, ← hframe x, Option.not_isSome_iff_eq_none]
  rw [hinner, List.findSome?_eq_none_iff, List.findSome?_eq_none_iff, List.forall_mem_append, hfree]

end Surrounded

section Heads

variable {base : List (Dict Value)} {names : List (List String)} {bound : String → Prop}

/-- Parameters are added to a frame. -/
theorem frameOf_params {params : List (String × Operand)} {own : List String}
    {start frame : Dict Value} {s s' : Rendering} (hstart : FrameOf start own)
    (h : (params.foldlM (fun frame p => return Dict.insert p.1 (← Render.eval p.2.eval) frame)
      start : Render (Dict Value)).run.run s = (.ok frame, s')) :
    FrameOf frame (own ++ params.map Prod.fst) := by
  induction params generalizing own start s with
  | nil =>
    cases h
    rw [List.map_nil, List.append_nil]
    exact hstart
  | cons p params ih =>
    rw [List.foldlM_cons, bind_assoc, run_bind, Render.run_eval] at h
    split at h
    · next v s₁ _ =>
      rw [pure_bind] at h
      apply (ih (hstart.insert p.1 v) h).congr
      intro x
      simp [or_left_comm]
    · cases h

/-- The frame of an inclusion binds its parameters. -/
theorem frameOf_paramFrame {params : List (String × Operand)} {s s' : Rendering}
    {frame : Dict Value} (h : (paramFrame params).run.run s = (.ok frame, s')) :
    FrameOf frame (params.map Prod.fst) :=
  frameOf_params frameOf_nil h

namespace Loop

/-- In a round, the innermost frame binds the variable of the loop and the one about the loop. -/
theorem surrounded_roundState {var : String} {length index : Nat} {item : Value} {own : List String}
    {s : Rendering} (h : Surrounded base (own :: names) s)
    (hown : ∀ x ∈ own, x ∈ [var, "forloop"]) :
    Surrounded base ([var, "forloop"] :: names) (roundState var length index item s) := by
  have hset := (h.set var item).set "forloop" (state index length)
  apply hset.congr
  intro x
  have hother := hown x
  simp only [List.mem_cons] at hother ⊢
  grind

/-- Every round begins in the frame of the loop. -/
theorem Starts.surrounded {var : String} {length index : Nat} {body : Render String}
    {items : List Value} {s u : Rendering} (hbody : ∀ s, Render.Keeps bound s body)
    (h : Starts var length body index items s u) {own : List String}
    (hs : Surrounded base (own :: names) s) (hown : ∀ x ∈ own, x ∈ [var, "forloop"]) :
    Surrounded base ([var, "forloop"] :: names) u := by
  induction h generalizing own with
  | first => exact surrounded_roundState hs hown
  | @next index item rest s s' u text hround _ ih =>
    have hstart : Surrounded base ([var, "forloop"] :: names)
        (roundState var length index item s) := surrounded_roundState hs hown
    have hkept := hbody _ hstart.store
    rw [← Render.state_round, hround] at hkept
    exact ih (hstart.of_kept hkept) fun x hx => hx

end Loop

end Heads

/-- Each of some bodies has the heads of every engine. -/
theorem Node.BuiltinInBodies.getElem? {bodies : List (List Node)} (h : BuiltinInBodies bodies)
    {i : Nat} {body : List Node} (hbody : bodies[i]? = some body) : BuiltinAll body := by
  induction bodies generalizing i with
  | nil => simp at hbody
  | cons first rest ih =>
    cases i with
    | zero =>
      cases hbody
      exact h.1
    | succ i => exact ih h.2 hbody

section Points

open Render

variable {setup : Setup} {filters : Filters} {names : List (List String)}
  {base : List (Dict Value)}

/-- Whatever is bound in the root frame, nodes of built-in tags leave the other frames alone. -/
theorem keeps_builtinAll (htags : setup.tags = TagKind.builtin) (n : Nat) {nodes : List Node}
    (hnodes : Node.BuiltinAll nodes) (s : Rendering) :
    Keeps (fun _ => True) s (Node.renderAll filters (fetch setup filters n) nodes) :=
  -- no name is asked of any template, so that one without nodes serves
  have t : Template := ⟨{}, ⟨0⟩, [], rfl⟩
  keeps_nodes htags (keepsIn htags n) (t := t) hnodes fun _ _ => trivial

/-- A run of an action that keeps frames keeps them. -/
theorem kept_of_run {α : Type} {action : Render α} {s s' : Rendering} {r : Except Error α}
    (h : Keeps (fun _ => True) s action) (hs : s.store.Builtin)
    (hrun : action.run.run s = (r, s')) : s.Kept (fun _ => True) s' := by
  have hkept := h hs
  rw [hrun] at hkept
  exact hkept

/-- A body that is entered has the frame of the loop around it, if any. -/
theorem Head.Enters.surrounded {head : Head} {actions : List (Render String)} {i : Nat}
    {s s' : Rendering} (h : head.Enters actions s i s') (hs : Surrounded base names s)
    (hbody : ∀ s, Keeps (fun _ => True) s (bodyAt actions 0)) :
    Surrounded base ((head.frame? i).toList ++ names) s' := by
  cases h with
  | block | capture | conditional | negated => exact hs
  | @noItems l _ hvisited =>
    exact hs.of_kept (kept_of_run (Loop.keeps_visited l) hs.store hvisited)
  | @round l items s₁ _ hvisited hstart =>
    have hs₁ := hs.of_kept (kept_of_run (Loop.keeps_visited l) hs.store hvisited)
    apply hstart.surrounded hbody (hs₁.push frameOf_nil)
    intro x hx
    cases hx

/-- The frames of the scope at a point are those of the loops and inclusions around it, inside the
frames that the rendering began with. -/
theorem Framed.surrounded (htags : setup.tags = TagKind.builtin) {p q : Point}
    (h : Framed setup filters p names q) (hp : Node.BuiltinAll p.nodes)
    (hstore : p.state.store.Builtin) :
    Node.BuiltinAll q.nodes ∧ Surrounded p.state.scope.inner names q.state := by
  induction h with
  | start => exact ⟨hp, hstore, [], rfl, .nil⟩
  | @next names t n node rest s s' text _ hrun ih =>
    obtain ⟨⟨hnode, hrest⟩, hs⟩ := ih
    have hkeeps : Keeps (fun _ => True) s (node.render filters (fetch setup filters n)) :=
      keeps_node htags (keepsIn htags n) hnode
        fun _ (_ : Point.Binds setup filters ⟨t, n + 1, node :: rest, s⟩ _) => trivial
    exact ⟨hrest, hs.of_kept (kept_of_run hkeeps hs.store hrun)⟩
  | @body names t n i head bodies token rest body s s' _ henters hbody ih =>
    obtain ⟨⟨hnode, hrest⟩, hs⟩ := ih
    refine ⟨hnode.2.getElem? hbody, henters.surrounded hs fun u => ?_⟩
    apply keeps_bodyAt
    intro action haction
    rw [Node.renderBodies_eq_map, List.getElem?_map] at haction
    obtain ⟨first, hfirst, rfl⟩ := Option.map_eq_some_iff.1 haction
    exact keeps_builtinAll htags n (hnode.2.getElem? hfirst) u
  | @inclusion names t n name params bodies token rest s s₁ s₂ v issued frame _ hname hload hframe
      ih =>
    obtain ⟨-, hs⟩ := ih
    have hsound := Setup.sound_getTemplate htags v.text
    have hs₁ := hs.of_kept (kept_of_run (keeps_load hsound) hs.store hload)
    have hs₂ := hs₁.of_kept (kept_of_run (keeps_paramFrame params) hs₁.store hframe)
    exact ⟨(hsound s.store hs.store).2 issued (congrArg Prod.fst hload),
      hs₂.push (frameOf_paramFrame hframe)⟩

end Points

end Stencil
