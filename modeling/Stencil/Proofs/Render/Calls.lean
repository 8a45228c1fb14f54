import Mathlib.Logic.Relation
import Stencil.Proofs.Render.Actions

/-!
# What a rendering renders

A rendering passes through points: some nodes of a template are about to be rendered in a state.
From a point it comes to the nodes behind the first one, once that was rendered, to the bodies that a
tag at this point enters (`Head.Enters`), and to the template that an inclusion loads (`Leads`).  The
templates at the points that are reached in this way are those that are rendered
(`Template.Rendered`).
-/

set_option autoImplicit false

namespace Stencil

/-- The body that a tag with conditions chooses in a scope, by its number. -/
inductive Chosen (scope : Scope) : List Condition → Nat → Prop
  | holds {c : Condition} {conditions : List Condition} (h : c.eval scope = .ok true) :
      Chosen scope (c :: conditions) 0
  | fails {c : Condition} {conditions : List Condition} {i : Nat} (h : c.eval scope = .ok false)
      (hrest : Chosen scope conditions i) : Chosen scope (c :: conditions) (i + 1)
  | otherwise : Chosen scope [] 0

namespace Loop

/-- The items that a loop visits. -/
def visited (loop : Loop) : Render (List Value) := do
  let items := (← Render.eval loop.collection.eval).items
  let offset ← count loop.offset
  let limit ← count loop.limit
  return select items (offset.getD 0) limit loop.reversed

/-- A loop renders its first body for each item that it visits, and its second one if there is none.
-/
theorem render_eq (loop : Loop) (bodies : List (Render String)) :
    loop.render bodies = loop.visited >>= fun items =>
      if items.isEmpty then Render.bodyAt bodies 1
      else Render.within [] (rounds loop.var items.length (Render.bodyAt bodies 0) 0 items) := by
  simp only [render, visited, bind_assoc, pure_bind]

/-- The state in which the body of a round is rendered. -/
def roundState (var : String) (length index : Nat) (item : Value) (s : Rendering) : Rendering :=
  s.withScope fun scope => (scope.set var item).set "forloop" (state index length)

/-- The rounds of a loop from an index on begin their bodies in a state; a round begins when the
rounds before it went on. -/
inductive Starts (var : String) (length : Nat) (body : Render String) :
    Nat → List Value → Rendering → Rendering → Prop
  | first {index : Nat} {item : Value} {rest : List Value} {s : Rendering} :
      Starts var length body index (item :: rest) s (roundState var length index item s)
  | next {index : Nat} {item : Value} {rest : List Value} {s s' u : Rendering} {text : String}
      (h : (Render.round body).run.run (roundState var length index item s) =
        (.ok (text, true), s'))
      (hrest : Starts var length body (index + 1) rest s' u) :
      Starts var length body index (item :: rest) s u

end Loop

/-- A tag that is rendered in a state enters a body, given by its number, in a state. -/
inductive Head.Enters (bodies : List (Render String)) (s : Rendering) :
    Head → Nat → Rendering → Prop
  | block {name : String}
      (h : (Dict.find? name (s.scope.registerObject Render.blockRegister)).bind Value.string? =
        none) : Enters bodies s (.block name) 0 s
  | capture {name : String} : Enters bodies s (.capture name) 0 s
  | conditional {conditions : List Condition} {i : Nat} (h : Chosen s.scope conditions i) :
      Enters bodies s (.conditional conditions) i s
  | negated {c : Condition} {holds : Bool} (h : c.eval s.scope = .ok holds) :
      Enters bodies s (.negated c) (if holds then 1 else 0) s
  | noItems {l : Loop} {s' : Rendering} (h : l.visited.run.run s = (.ok [], s')) :
      Enters bodies s (.loop l) 1 s'
  | round {l : Loop} {items : List Value} {s' u : Rendering}
      (h : l.visited.run.run s = (.ok items, s'))
      (hstart : Loop.Starts l.var items.length (Render.bodyAt bodies 0) 0 items
        (s'.withScope (Scope.push · [])) u) : Enters bodies s (.loop l) 0 u

/-- The variable that a tag binds in the root frame. -/
def Head.bound? : Head → Option String
  | assign name _ => some name
  | capture name => some name
  | _ => none

namespace Node

mutual

/-- The variables that the tags of a node bind in the root frame. -/
def bound : Node → List String
  | literal _ => []
  | output _ _ => []
  | tag head bodies _ => head.bound?.toList ++ boundInBodies bodies

/-- The variables that the tags of some nodes bind in the root frame. -/
def boundAll : List Node → List String
  | [] => []
  | n :: rest => bound n ++ boundAll rest

/-- The variables that the tags in some bodies bind in the root frame. -/
def boundInBodies : List (List Node) → List String
  | [] => []
  | body :: rest => boundAll body ++ boundInBodies rest

end

/-- The names that bodies bind are those that each of them binds. -/
theorem boundInBodies_eq_flatMap (bodies : List (List Node)) :
    boundInBodies bodies = bodies.flatMap boundAll := by
  induction bodies with
  | nil => rfl
  | cons body rest ih => rw [boundInBodies, ih, List.flatMap_cons]

end Node

namespace Template

/-- How an inclusion renders the template of a name, when templates may include each other `n` deep.
-/
def fetch (setup : Setup) (filters : Filters) (n : Nat) (name : String) :
    Render (Render String) := do
  let issued ← Render.load (setup.getTemplate name)
  return renderIn setup filters n issued.template.nodes

/-- The nodes of a template are rendered with one inclusion less. -/
theorem renderIn_succ (setup : Setup) (filters : Filters) (n : Nat) (nodes : List Node) :
    renderIn setup filters (n + 1) nodes = Node.renderAll filters (fetch setup filters n) nodes :=
  rfl

end Template

open Template (fetch)

/-- Some nodes of a template are about to be rendered in a state, and templates may include each
other `depth` deep. -/
structure Point where
  template : Template
  depth : Nat
  nodes : List Node
  state : Rendering

/-- The rendering of one point comes to another one. -/
inductive Leads (setup : Setup) (filters : Filters) : Point → Point → Prop
  | next {t : Template} {n : Nat} {node : Node} {rest : List Node} {s s' : Rendering}
      {text : String} (h : (node.render filters (fetch setup filters n)).run.run s = (.ok text, s')) :
      Leads setup filters ⟨t, n + 1, node :: rest, s⟩ ⟨t, n + 1, rest, s'⟩
  | body {t : Template} {n i : Nat} {head : Head} {bodies : List (List Node)} {token : Token}
      {rest body : List Node} {s s' : Rendering}
      (h : head.Enters (Node.renderBodies filters (fetch setup filters n) bodies) s i s')
      (hbody : bodies[i]? = some body) :
      Leads setup filters ⟨t, n + 1, .tag head bodies token :: rest, s⟩ ⟨t, n + 1, body, s'⟩
  | inclusion {t : Template} {n : Nat} {name : Operand} {params : List (String × Operand)}
      {bodies : List (List Node)} {token : Token} {rest : List Node} {s s₁ s₂ : Rendering}
      {v : Value} {issued : Issued} {frame : Dict Value} (hname : name.eval s.scope = .ok v)
      (hload : (Render.load (setup.getTemplate v.text)).run.run s = (.ok issued, s₁))
      (hframe : (paramFrame params).run.run s₁ = (.ok frame, s₂)) :
      Leads setup filters ⟨t, n + 2, .tag (.inclusion name params) bodies token :: rest, s⟩
        ⟨issued.template, n + 1, issued.template.nodes, s₂.withScope (Scope.push · frame)⟩

section Points

variable {setup : Setup} {filters : Filters} {p q : Point} {x : String}

/-- The rendering of a point comes to a tag that binds a variable in the root frame. -/
def Point.Binds (setup : Setup) (filters : Filters) (p : Point) (x : String) : Prop :=
  ∃ t n head bodies token rest s, head.bound? = some x ∧
    Relation.ReflTransGen (Leads setup filters) p ⟨t, n, .tag head bodies token :: rest, s⟩

/-- What is bound at a point that a point leads to is bound at this one. -/
theorem Leads.binds (h : Leads setup filters p q) (hq : q.Binds setup filters x) :
    p.Binds setup filters x := by
  obtain ⟨t, n, head, bodies, token, rest, s, hbound, hreach⟩ := hq
  exact ⟨t, n, head, bodies, token, rest, s, hbound, .head h hreach⟩

/-- The nodes at a point bind only what the template binds. -/
def Point.Part (p : Point) : Prop :=
  ∀ x ∈ Node.boundAll p.nodes, x ∈ Node.boundAll p.template.nodes

/-- A part of a template leads to parts of templates. -/
theorem Leads.part (h : Leads setup filters p q) (hp : p.Part) : q.Part := by
  cases h with
  | next =>
    intro x hx
    exact hp x (List.mem_append_right _ hx)
  | body _ hbody =>
    intro x hx
    apply hp x
    apply List.mem_append_left
    apply List.mem_append_right
    rw [Node.boundInBodies_eq_flatMap]
    exact List.mem_flatMap.2 ⟨_, List.mem_of_getElem? hbody, hx⟩
  | inclusion =>
    intro x hx
    exact hx

/-- Whatever a part of a template leads to is a part of one. -/
theorem part_of_reflTransGen (h : Relation.ReflTransGen (Leads setup filters) p q) (hp : p.Part) :
    q.Part := by
  induction h with
  | refl => exact hp
  | tail _ hstep ih => exact hstep.part ih

end Points

namespace Template

/-- Rendering a template in a state, another template is rendered, or it is the same one. -/
def Rendered (setup : Setup) (filters : Filters) (t : Template) (s : Rendering) (u : Template) :
    Prop :=
  ∃ p : Point, p.template = u ∧
    Relation.ReflTransGen (Leads setup filters) ⟨t, inclusionBound, t.nodes, s⟩ p

/-- A tag that is come to stands in a template that is rendered. -/
theorem exists_rendered_of_binds {setup : Setup} {filters : Filters} {t : Template} {s : Rendering}
    {x : String} (h : Point.Binds setup filters ⟨t, inclusionBound, t.nodes, s⟩ x) :
    ∃ u, Rendered setup filters t s u ∧ x ∈ Node.boundAll u.nodes := by
  obtain ⟨u, n, head, bodies, token, rest, s', hbound, hreach⟩ := h
  refine ⟨u, ⟨_, rfl, hreach⟩, ?_⟩
  have hstart : Point.Part ⟨t, inclusionBound, t.nodes, s⟩ := fun _ hx => hx
  apply part_of_reflTransGen hreach hstart
  simp [Node.boundAll, Node.bound, hbound]

end Template

end Stencil
