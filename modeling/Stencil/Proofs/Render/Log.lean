import Stencil.Proofs.Render.Origins

/-!
# The log of a rendering

The log of a rendering lists in order of time how nodes begin and end, each with the state at that
time and with the names of the blocks around it (`Point.log`).  Between the two events of a node
stand those of the bodies that it enters, in order (`Head.entries`).  The nodes at every point that
the rendering comes to begin in the log (`Point.log_subset_of_reflTransGen`).  The registers go from
body to body unchanged, but for what a block keeps (`Head.flows`).  No body but those that a tag enters
makes any difference to it (`Head.run_congr`), and so nothing is evaluated that is not logged.
-/

set_option autoImplicit false

namespace Stencil

open Render
open Template (fetch renderIn)

/-- The number of the body that a tag with conditions chooses, unless a condition fails before. -/
def chosen? (scope : Scope) : List Condition → Option Nat
  | [] => some 0
  | c :: conditions =>
    match c.eval scope with
    | .ok true => some 0
    | .ok false => (chosen? scope conditions).map (· + 1)
    | .error _ => none

/-- A branch that is chosen is the one that is looked up. -/
theorem Chosen.chosen? {scope : Scope} {conditions : List Condition} {i : Nat}
    (h : Chosen scope conditions i) : Stencil.chosen? scope conditions = some i := by
  induction h with
  | holds h => rw [Stencil.chosen?, h]
  | fails h _ ih => rw [Stencil.chosen?, h, ih]; rfl
  | otherwise => rfl

/-- Conditions leave behind what the body that they choose leaves behind. -/
theorem state_firstHolding (conditions : List Condition) (bodies : List (Render String))
    (s : Rendering) : ((firstHolding conditions bodies).run.run s).2 =
      ((chosen? s.scope conditions).elim s fun i => ((bodyAt bodies i).run.run s).2) := by
  induction conditions generalizing bodies with
  | nil => cases bodies <;> rfl
  | cons c conditions ih =>
    cases bodies with
    | nil =>
      have hnone (i : Nat) : ((bodyAt [] i).run.run s).2 = s := rfl
      simp only [hnone]
      cases chosen? s.scope (c :: conditions) <;> rfl
    | cons body bodies =>
      rw [firstHolding, run_bind, run_eval, chosen?]
      cases c.eval s.scope with
      | error e => rfl
      | ok holds =>
        cases holds with
        | true => rfl
        | false =>
          refine (ih bodies).trans ?_
          cases chosen? s.scope conditions <;> rfl

namespace Loop

/-- The states in which the rounds of a loop from an index on begin their bodies, in order. -/
def starts (var : String) (length : Nat) (body : Render String) :
    Nat → List Value → Rendering → List Rendering
  | _, [], _ => []
  | index, item :: rest, s =>
    roundState var length index item s ::
      match (Render.round body).run.run (roundState var length index item s) with
      | (.ok (_, true), s') => starts var length body (index + 1) rest s'
      | _ => []

variable {var : String} {length index : Nat} {body : Render String} {items : List Value}
  {s u : Rendering}

/-- A round that begins is one of those that are listed. -/
theorem Starts.mem_starts (h : Starts var length body index items s u) :
    u ∈ starts var length body index items s := by
  induction h with
  | first => exact .head _
  | next hround _ ih =>
    rw [starts, hround]
    exact .tail _ ih

end Loop

namespace Head

/-- Whether a tag includes a template. -/
def includes : Head → Bool
  | inclusion _ _ => true
  | _ => false

/-- The bodies that a tag enters when it is rendered, by number and with the state at that time, in
order. -/
def entries (bodies : List (Render String)) (s : Rendering) : Head → List (Nat × Rendering)
  | block name =>
    match (Dict.find? name (s.scope.registerObject blockRegister)).bind Value.string? with
    | some _ => []
    | none => [(0, s)]
  | capture _ => [(0, s)]
  | conditional conditions => (chosen? s.scope conditions).toList.map fun i => (i, s)
  | negated c =>
    match c.eval s.scope with
    | .ok holds => [(if holds then 1 else 0, s)]
    | .error _ => []
  | loop l =>
    match l.visited.run.run s with
    | (.ok [], s') => [(1, s')]
    | (.ok items, s') =>
      (Loop.starts l.var items.length (bodyAt bodies 0) 0 items
        (s'.withScope (Scope.push · []))).map fun u => (0, u)
    | _ => []
  | _ => []

variable {bodies : List (Render String)} {s u : Rendering} {head : Head} {i : Nat}

/-- A block whose name has an entry enters nothing. -/
theorem entries_block_of_text {name text : String}
    (h : (Dict.find? name (s.scope.registerObject blockRegister)).bind Value.string? = some text) :
    (Head.block name).entries bodies s = [] := by
  rw [entries, h]

/-- A block whose name has no entry enters its body. -/
theorem entries_block {name : String}
    (h : (Dict.find? name (s.scope.registerObject blockRegister)).bind Value.string? = none) :
    (Head.block name).entries bodies s = [(0, s)] := by
  rw [entries, h]

/-- What a tag enters is among its entries. -/
theorem Enters.mem_entries (h : head.Enters bodies s i u) : (i, u) ∈ head.entries bodies s := by
  cases h with
  | block h =>
    rw [entries_block h]
    exact .head _
  | capture => exact .head _
  | conditional h =>
    rw [entries, h.chosen?]
    exact .head _
  | negated h =>
    rw [entries, h]
    exact .head _
  | noItems h =>
    rw [entries, h]
    exact .head _
  | @round l items s' _ h hstart =>
    rw [entries, h]
    cases items with
    | nil => cases hstart
    | cons item rest => exact List.mem_map.2 ⟨u, hstart.mem_starts, rfl⟩

/-- Bodies are rendered one after the other, and between them the registers stay as they are. -/
inductive Flows (bodies : List (Render String)) :
    Rendering → List (Nat × Rendering) → Rendering → Prop
  | stop {s s' : Rendering} (h : s'.scope.registers = s.scope.registers) : Flows bodies s [] s'
  | body {s u s' : Rendering} {i : Nat} {rest : List (Nat × Rendering)}
      (h : u.scope.registers = s.scope.registers)
      (hrest : Flows bodies ((bodyAt bodies i).run.run u).2 rest s') :
      Flows bodies s ((i, u) :: rest) s'

/-- A tag that enters one body and leaves its registers as they are is in order. -/
theorem Flows.single {s' : Rendering} (i : Nat)
    (h : s'.scope.registers = ((bodyAt bodies i).run.run s).2.scope.registers) :
    Flows bodies s [(i, s)] s' :=
  .body rfl (.stop h)

/-- Steps that leave the registers alone may go before and behind. -/
theorem Flows.of_registers {u' s' : Rendering} {entries : List (Nat × Rendering)}
    (h : Flows bodies u entries u') (hu : u.scope.registers = s.scope.registers)
    (hs : s'.scope.registers = u'.scope.registers) : Flows bodies s entries s' := by
  induction h generalizing s with
  | stop h => exact .stop (hs.trans (h.trans hu))
  | body h _ ih => exact .body (h.trans hu) (ih rfl hs)

/-- The registers are the same when a round begins. -/
theorem registers_roundState (var : String) (length index : Nat) (item : Value) (s : Rendering) :
    (Loop.roundState var length index item s).scope.registers = s.scope.registers := by
  have hset (scope : Scope) (name : String) (v : Value) :
      (scope.set name v).registers = scope.registers := by
    unfold Scope.set
    split <;> rfl
  exact (hset _ _ _).trans (hset _ _ _)

/-- The registers go from round to round. -/
theorem flows_rounds (var : String) (length index : Nat) (items : List Value) (s : Rendering) :
    Flows bodies s ((Loop.starts var length (bodyAt bodies 0) index items s).map fun u => (0, u))
      ((Loop.rounds var length (bodyAt bodies 0) index items).run.run s).2 := by
  induction items generalizing index s with
  | nil => exact .stop rfl
  | cons item rest ih =>
    rw [Loop.starts, List.map_cons, Loop.rounds, run_bind, run_modifyScope]
    apply Flows.body (registers_roundState var length index item s)
    rw [← state_round]
    show Flows bodies _ _ ((Render.round (bodyAt bodies 0) >>= _).run.run
      (Loop.roundState var length index item s)).2
    rw [run_bind]
    rcases (Render.round (bodyAt bodies 0)).run.run (Loop.roundState var length index item s) with
      ⟨r, u⟩
    cases r with
    | error e => exact .stop rfl
    | ok round =>
      obtain ⟨text, goesOn⟩ := round
      cases goesOn with
      | false => exact .stop rfl
      | true =>
        show Flows bodies u _ ((Loop.rounds var length (bodyAt bodies 0) (index + 1) rest >>=
          fun more => pure (text ++ more)).run.run u).2
        rw [state_bind_pure]
        exact ih (index + 1) u

variable {filters : Filters} {fetch : String → Render (Render String)}

/-- The registers go through the bodies that a tag enters, but for a block and an inclusion. -/
theorem flows (hbuiltin : head.Builtin) (hblock : head.block? = none)
    (hinclusion : head.includes = false) (s : Rendering) :
    Flows bodies s (head.entries bodies s) ((head.render filters fetch bodies).run.run s).2 := by
  cases head with
  | layout | text | signal => exact .stop rfl
  | script | region => exact hbuiltin.elim
  | inclusion => cases hinclusion
  | block => cases hblock
  | assign name value =>
    show Flows bodies s [] ((eval _ >>= _).run.run s).2
    rw [run_bind, run_eval]
    cases value.eval filters s.scope <;> exact .stop rfl
  | capture name =>
    apply Flows.single 0
    show ((bodyAt bodies 0 >>= _).run.run s).2.scope.registers = _
    rw [run_bind]
    rcases (bodyAt bodies 0).run.run s with ⟨r, u⟩
    cases r <;> rfl
  | conditional conditions =>
    show Flows bodies s _ ((firstHolding conditions bodies).run.run s).2
    rw [state_firstHolding, entries]
    cases chosen? s.scope conditions with
    | none => exact .stop rfl
    | some i => exact .single i rfl
  | negated c =>
    show Flows bodies s _ ((eval c.eval >>= _).run.run s).2
    rw [run_bind, run_eval, entries]
    cases c.eval s.scope with
    | error e => exact .stop rfl
    | ok holds => cases holds <;> exact .single _ rfl
  | loop l =>
    show Flows bodies s _ ((l.render bodies).run.run s).2
    obtain ⟨r, hvisited⟩ : ∃ r, l.visited.run.run s = (r, s) := ⟨_, l.run_visited s⟩
    rw [Loop.render_eq, run_bind, entries, hvisited]
    cases r with
    | error e => exact .stop rfl
    | ok items =>
      cases items with
      | nil => exact .single 1 rfl
      | cons item rest =>
        exact (flows_rounds l.var _ 0 (item :: rest) _).of_registers rfl rfl

variable {actions : List (Render String)}

/-- Conditions depend on no body but the one that they choose. -/
theorem firstHolding_congr {conditions : List Condition} (hlength : actions.length = bodies.length)
    (h : ∀ i, Chosen s.scope conditions i →
      (bodyAt actions i).run.run s = (bodyAt bodies i).run.run s) :
    (firstHolding conditions actions).run.run s = (firstHolding conditions bodies).run.run s := by
  induction conditions generalizing actions bodies with
  | nil => exact h 0 .otherwise
  | cons c conditions ih =>
    cases bodies with
    | nil =>
      cases actions with
      | nil => rfl
      | cons => cases hlength
    | cons body bodies =>
      cases actions with
      | nil => cases hlength
      | cons action actions =>
        rw [firstHolding, firstHolding, run_bind, run_bind, run_eval]
        cases hc : c.eval s.scope with
        | error e => rfl
        | ok holds =>
          cases holds with
          | true => exact h 0 (.holds hc)
          | false => exact ih (Nat.succ.inj hlength) fun i hi => h (i + 1) (.fails hc hi)

/-- The rounds of a loop depend on its body in no state but those in which they begin. -/
theorem rounds_congr {var : String} {length index : Nat} {action body : Render String}
    {items : List Value} (h : ∀ u, Loop.Starts var length body index items s u →
      action.run.run u = body.run.run u) :
    (Loop.rounds var length action index items).run.run s =
      (Loop.rounds var length body index items).run.run s := by
  induction items generalizing index s with
  | nil => rfl
  | cons item rest ih =>
    have hround : (Render.round action).run.run (Loop.roundState var length index item s) =
        (Render.round body).run.run (Loop.roundState var length index item s) := by
      rw [run_round, run_round, h _ .first]
    rw [Loop.rounds, Loop.rounds, run_bind, run_bind, run_modifyScope]
    show (Render.round action >>= _).run.run (Loop.roundState var length index item s) =
      (Render.round body >>= _).run.run (Loop.roundState var length index item s)
    rw [run_bind, run_bind, hround]
    rcases hrun : (Render.round body).run.run (Loop.roundState var length index item s) with ⟨r, s'⟩
    cases r with
    | error e => rfl
    | ok round =>
      obtain ⟨text, goesOn⟩ := round
      cases goesOn with
      | false => rfl
      | true =>
        show (Loop.rounds var length action (index + 1) rest >>= _).run.run s' =
          (Loop.rounds var length body (index + 1) rest >>= _).run.run s'
        rw [run_bind, run_bind, ih fun u hu => h u (.next hrun hu)]

/-- What a tag does depends on no body but those that it enters, in the states in which it enters them.
-/
theorem run_congr (hbuiltin : head.Builtin) (hlength : actions.length = bodies.length)
    (h : ∀ i u, head.Enters bodies s i u →
      (bodyAt actions i).run.run u = (bodyAt bodies i).run.run u) :
    (head.render filters fetch actions).run.run s = (head.render filters fetch bodies).run.run s := by
  cases head with
  | layout | assign | text | signal | inclusion => rfl
  | script | region => exact hbuiltin.elim
  | block name =>
    show (Render.block name (bodyAt actions 0)).run.run s =
      (Render.block name (bodyAt bodies 0)).run.run s
    cases hkept : (Dict.find? name (s.scope.registerObject blockRegister)).bind Value.string? with
    | some text => rw [run_block_of_text hkept, run_block_of_text hkept]
    | none =>
      rw [run_block hkept, run_block hkept, run_bind, run_bind, h 0 s (.block hkept)]
  | capture name =>
    show (bodyAt actions 0 >>= _).run.run s = (bodyAt bodies 0 >>= _).run.run s
    rw [run_bind, run_bind, h 0 s .capture]
  | conditional conditions =>
    exact firstHolding_congr hlength fun i hi => h i s (.conditional hi)
  | negated c =>
    show (eval c.eval >>= _).run.run s = (eval c.eval >>= _).run.run s
    rw [run_bind, run_bind, run_eval]
    cases hc : c.eval s.scope with
    | error e => rfl
    | ok holds => cases holds <;> exact h _ s (.negated hc)
  | loop l =>
    show (l.render actions).run.run s = (l.render bodies).run.run s
    rw [Loop.render_eq, Loop.render_eq, run_bind, run_bind]
    rcases hvisited : l.visited.run.run s with ⟨r, s'⟩
    cases r with
    | error e => rfl
    | ok items =>
      cases items with
      | nil => exact h 1 s' (.noItems hvisited)
      | cons item rest =>
        have hrounds : (Loop.rounds l.var (item :: rest).length (bodyAt actions 0) 0
            (item :: rest)).run.run (s'.withScope (Scope.push · [])) =
            (Loop.rounds l.var (item :: rest).length (bodyAt bodies 0) 0
              (item :: rest)).run.run (s'.withScope (Scope.push · [])) :=
          rounds_congr fun u hu => h 0 u (.round hvisited hu)
        exact congrArg (fun run : Except Error String × Rendering =>
          (run.1, run.2.withScope Scope.pop)) hrounds

end Head

/-- A node begins or ends to be rendered, inside blocks of some names. -/
inductive Event where
  | begins (blocks : List String) (node : Node) (state : Rendering)
  | ends (blocks : List String) (node : Node) (outcome : Except Error String) (state : Rendering)

/-- The state at an event. -/
def Event.state : Event → Rendering
  | begins _ _ state => state
  | ends _ _ _ state => state

namespace Node

section Log

variable (filters : Filters) (fetch : String → Render (Render String))

/-- The events of a node, given those of the bodies that it enters. -/
def eventsAround (blocks : List String) (node : Node) (s : Rendering) (inner : List Event) :
    List Event :=
  .begins blocks node s ::
    (inner ++ [.ends blocks node ((node.render filters fetch).run.run s).1
      ((node.render filters fetch).run.run s).2])

mutual

/-- The events of a node that is rendered in a state inside some blocks. -/
def log (blocks : List String) : Node → Rendering → List Event
  | literal t, s => eventsAround filters fetch blocks (literal t) s []
  | output o t, s => eventsAround filters fetch blocks (output o t) s []
  | tag head bodies t, s =>
    eventsAround filters fetch blocks (tag head bodies t) s
      ((head.entries (renderBodies filters fetch bodies) s).flatMap fun entry =>
        logBody (head.block?.toList ++ blocks) bodies entry.1 entry.2)

/-- The events of some nodes, of which one is rendered in the state that those before it left. -/
def logAll (blocks : List String) : List Node → Rendering → List Event
  | [], _ => []
  | n :: rest, s =>
    log blocks n s ++
      match (n.render filters fetch).run.run s with
      | (.ok _, s') => logAll blocks rest s'
      | (.error _, _) => []

/-- The events of one of some bodies. -/
def logBody (blocks : List String) : List (List Node) → Nat → Rendering → List Event
  | [], _, _ => []
  | body :: _, 0, s => logAll blocks body s
  | _ :: rest, i + 1, s => logBody blocks rest i s

end

end Log

variable {filters : Filters} {fetch : String → Render (Render String)} {blocks : List String}
  {s : Rendering}

/-- What is logged for a body of a tag is what is logged for its nodes. -/
theorem logBody_of_getElem? {bodies : List (List Node)} {i : Nat} {body : List Node}
    (h : bodies[i]? = some body) :
    logBody filters fetch blocks bodies i s = logAll filters fetch blocks body s := by
  induction bodies generalizing i with
  | nil => cases h
  | cons first rest ih =>
    cases i with
    | zero =>
      cases h
      rfl
    | succ i => exact ih h

/-- Where a node begins and ends is in its log. -/
theorem eventsAround_subset_log (n : Node) :
    eventsAround filters fetch blocks n s [] ⊆ log filters fetch blocks n s := by
  intro ev hev
  rcases List.mem_cons.1 hev with rfl | hev
  · cases n <;> exact .head _
  · cases n <;> exact .tail _ (List.mem_append_right _ hev)

section Closed

mutual

/-- Whether no tag of a node includes a template, at any depth. -/
def closed : Node → Bool
  | tag head bodies _ => !head.includes && closedInBodies bodies
  | _ => true

/-- Whether no tag of some nodes includes a template. -/
def closedAll : List Node → Bool
  | [] => true
  | n :: rest => closed n && closedAll rest

/-- Whether no tag in some bodies includes a template. -/
def closedInBodies : List (List Node) → Bool
  | [] => true
  | body :: rest => closedAll body && closedInBodies rest

end

variable {n : Node} {rest body : List Node} {bodies : List (List Node)}

/-- Nodes include no templates if the first one and the further ones do not. -/
theorem closedAll_cons :
    closedAll (n :: rest) = true ↔ closed n = true ∧ closedAll rest = true := by
  rw [closedAll, Bool.and_eq_true]

/-- A tag includes no templates if it is no inclusion and nothing in its bodies is. -/
theorem closed_tag {head : Head} {token : Token} : closed (.tag head bodies token) = true ↔
    head.includes = false ∧ closedInBodies bodies = true := by
  rw [closed, Bool.and_eq_true, Bool.not_eq_true']

/-- A body of a tag that includes no templates includes none. -/
theorem closedAll_of_getElem? (h : closedInBodies bodies = true) {i : Nat}
    (hbody : bodies[i]? = some body) : closedAll body = true := by
  induction bodies generalizing i with
  | nil => cases hbody
  | cons first rest ih =>
    rw [closedInBodies, Bool.and_eq_true] at h
    cases i with
    | zero =>
      cases hbody
      exact h.1
    | succ i => exact ih h.2 hbody

end Closed

end Node

section Points

variable {setup : Setup} {filters : Filters} {p q : Point}

/-- The events of the nodes at a point, inside blocks of some names. -/
def Point.log (setup : Setup) (filters : Filters) (blocks : List String) (p : Point) : List Event :=
  match p.depth with
  | 0 => []
  | n + 1 => Node.logAll filters (fetch setup filters n) blocks p.nodes p.state

/-- The events of a body that a tag enters are among those of the tag; a block is around them. -/
theorem Point.log_body {t : Template} {n i : Nat} {head : Head} {bodies : List (List Node)}
    {token : Token} {rest body : List Node} {s s' : Rendering}
    (h : head.Enters (Node.renderBodies filters (fetch setup filters n) bodies) s i s')
    (hbody : bodies[i]? = some body) (blocks : List String) :
    log setup filters (head.block?.toList ++ blocks) ⟨t, n + 1, body, s'⟩ ⊆
      log setup filters blocks ⟨t, n + 1, .tag head bodies token :: rest, s⟩ := by
  intro ev hev
  apply List.mem_append_left
  apply List.mem_cons_of_mem
  apply List.mem_append_left
  refine List.mem_flatMap.2 ⟨(i, s'), h.mem_entries, ?_⟩
  rw [Node.logBody_of_getElem? hbody]
  exact hev

/-- Without inclusions, the events at a point that another one leads to are among the events
there. -/
theorem Leads.log_subset (h : Leads setup filters p q) (hp : Node.closedAll p.nodes = true)
    (blocks : List String) : Node.closedAll q.nodes = true ∧
      ∃ more, q.log setup filters (more ++ blocks) ⊆ p.log setup filters blocks := by
  cases h with
  | @next t n node rest s s' text hrun =>
    refine ⟨(Node.closedAll_cons.1 hp).2, [], fun ev hev => ?_⟩
    show ev ∈ Node.logAll filters (fetch setup filters n) blocks (node :: rest) s
    rw [Node.logAll, hrun]
    exact List.mem_append_right _ hev
  | body henters hbody =>
    have htag := Node.closed_tag.1 (Node.closedAll_cons.1 hp).1
    exact ⟨Node.closedAll_of_getElem? htag.2 hbody, _, Point.log_body henters hbody blocks⟩
  | inclusion => cases (Node.closed_tag.1 (Node.closedAll_cons.1 hp).1).1

/-- Whatever a rendering comes to without inclusions is logged, inside further blocks. -/
theorem Point.log_subset_of_reflTransGen (h : Relation.ReflTransGen (Leads setup filters) p q)
    (hp : Node.closedAll p.nodes = true) (blocks : List String) :
    Node.closedAll q.nodes = true ∧
      ∃ more, q.log setup filters (more ++ blocks) ⊆ p.log setup filters blocks := by
  induction h with
  | refl => exact ⟨hp, [], fun _ hev => hev⟩
  | tail _ hstep ih =>
    obtain ⟨hclosed, more, hsubset⟩ := ih
    obtain ⟨hclosed', more', hsubset'⟩ := hstep.log_subset hclosed (more ++ blocks)
    rw [← List.append_assoc] at hsubset'
    exact ⟨hclosed', more' ++ more, fun ev hev => hsubset (hsubset' hev)⟩

/-- Without inclusions, built-in tags lead to built-in tags only. -/
theorem builtinAll_of_reflTransGen (h : Relation.ReflTransGen (Leads setup filters) p q)
    (hp : Node.closedAll p.nodes = true) (hbuiltin : Node.BuiltinAll p.nodes) :
    Node.BuiltinAll q.nodes := by
  induction h with
  | refl => exact hbuiltin
  | tail hreach hstep ih =>
    obtain ⟨hclosed, -⟩ := Point.log_subset_of_reflTransGen hreach hp []
    cases hstep with
    | next => exact ih.2
    | body _ hbody => exact ih.1.2.getElem? hbody
    | inclusion => cases (Node.closed_tag.1 (Node.closedAll_cons.1 hclosed).1).1

/-- The first node at a point begins there and ends as it is rendered. -/
theorem Point.mem_of_log_subset {t : Template} {n : Nat} {node : Node} {rest : List Node}
    {s : Rendering} {blocks : List String} {events : List Event}
    (h : log setup filters blocks ⟨t, n + 1, node :: rest, s⟩ ⊆ events) :
    .begins blocks node s ∈ events ∧
      .ends blocks node ((node.render filters (fetch setup filters n)).run.run s).1
        ((node.render filters (fetch setup filters n)).run.run s).2 ∈ events := by
  have hnode : Node.eventsAround filters (fetch setup filters n) blocks node s [] ⊆
      Node.log filters (fetch setup filters n) blocks node s := node.eventsAround_subset_log
  exact ⟨h (List.mem_append_left _ (hnode (.head _))),
    h (List.mem_append_left _ (hnode (.tail _ (.head _))))⟩

end Points

end Stencil
