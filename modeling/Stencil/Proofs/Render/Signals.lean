import Stencil.Proofs.Render.Errors
import Stencil.Proofs.Render.Rounds

/-!
# What a signal carries

A tag that raises a signal stops the sequence of nodes that it stands in, and every sequence around
it up to the body of a loop, the body of a capture or the whole template (`Stops`).  On the way
there the signal passes through conditions, blocks, loops without items and included templates, each
of which hands it on (`Head.HandsOn`), and every sequence puts the texts of its earlier nodes in
front of what the signal carries (`Descends.arrives`).  So it arrives with all the texts before it,
those of the outermost sequence first, and neither the root frame, the registers nor the store
change on the way.  A loop takes its text for that of the round, and a rendering ends with it
(`Engine.signals_contained`).
-/

set_option autoImplicit false

namespace Stencil

open Template (fetch renderIn)

/-- A body that a tag enters hands a signal on as it is, unless it is captured or rendered in a
round of a loop. -/
def Head.HandsOn : Head → Nat → Prop
  | capture _, _ => False
  | loop _, 0 => False
  | _, _ => True

/-- A tag that hands a signal on repeats no body. -/
theorem Head.HandsOn.not_repeats {head : Head} {i : Nat} (h : head.HandsOn i) :
    ¬ head.Repeats i := by
  cases head with
  | loop l =>
    cases i with
    | zero => exact h.elim
    | succ i => exact id
  | _ => exact id

/-- A tag at a point raises a signal. -/
inductive Point.Signals (control : LoopControl) : Point → Prop
  | intro (t : Template) (n : Nat) (bodies : List (List Node)) (token : Token) (rest : List Node)
      (s : Rendering) :
      Point.Signals control ⟨t, n + 1, .tag (.signal control) bodies token :: rest, s⟩

/-- The rendering of a point comes to another one through bodies and inclusions that hand signals
on. On its way it leaves texts behind: `outer` are those of the nodes before the ones that it goes
into, level by level from the outside, and `level` those of the nodes before the other point. -/
inductive Descends (setup : Setup) (filters : Filters) (p : Point) :
    List (List String) → List String → Point → Prop
  | start : Descends setup filters p [] [] p
  | next {outer : List (List String)} {level : List String} {t : Template} {n : Nat} {node : Node}
      {rest : List Node} {s s' : Rendering} {text : String}
      (h : Descends setup filters p outer level ⟨t, n + 1, node :: rest, s⟩)
      (hrun : (node.render filters (fetch setup filters n)).run.run s = (.ok text, s')) :
      Descends setup filters p outer (level ++ [text]) ⟨t, n + 1, rest, s'⟩
  | body {outer : List (List String)} {level : List String} {t : Template} {n i : Nat} {head : Head}
      {bodies : List (List Node)} {token : Token} {rest body : List Node} {s s' : Rendering}
      (h : Descends setup filters p outer level ⟨t, n + 1, .tag head bodies token :: rest, s⟩)
      (henters : head.Enters (Node.renderBodies filters (fetch setup filters n) bodies) s i s')
      (hhands : head.HandsOn i) (hbody : bodies[i]? = some body) :
      Descends setup filters p (outer ++ [level]) [] ⟨t, n + 1, body, s'⟩
  | inclusion {outer : List (List String)} {level : List String} {t : Template} {n : Nat}
      {name : Operand} {params : List (String × Operand)} {bodies : List (List Node)}
      {token : Token} {rest : List Node} {s s₁ s₂ : Rendering} {v : Value} {issued : Issued}
      {frame : Dict Value}
      (h : Descends setup filters p outer level
        ⟨t, n + 2, .tag (.inclusion name params) bodies token :: rest, s⟩)
      (hname : name.eval s.scope = .ok v)
      (hload : (Render.load (setup.getTemplate v.text)).run.run s = (.ok issued, s₁))
      (hframe : (paramFrame params).run.run s₁ = (.ok frame, s₂)) :
      Descends setup filters p (outer ++ [level]) []
        ⟨issued.template, n + 1, issued.template.nodes, s₂.withScope (Scope.push · frame)⟩

/-- A signal arrives with a text, and the state is the given one but for the frames inside the root.
-/
structure Arrives (control : LoopControl) (text : String) (s : Rendering)
    (outcome : Except Error String × Rendering) : Prop where
  signal : outcome.1 = .error (.interrupt control text)
  root : outcome.2.scope.root = s.scope.root
  registers : outcome.2.scope.registers = s.scope.registers
  store : outcome.2.store = s.store

section Points

variable {setup : Setup} {filters : Filters} {p q : Point} {outer : List (List String)}
  {level : List String} {control : LoopControl} {text : String} {u : Rendering}

/-- A tag for a signal sends it, without text. -/
theorem Point.Signals.arrives (h : q.Signals control) :
    Arrives control "" q.state (q.run setup filters) := by
  cases h with
  | intro t n bodies token rest s =>
    rw [Point.run_tag_of_error (e := .interrupt control "") (u := s) rfl]
    exact ⟨rfl, rfl, rfl, rfl⟩

/-- A signal that is raised at a point arrives with the texts before it, level by level from the
outside, in front of its own. -/
theorem Descends.arrives (h : Descends setup filters p outer level q)
    (harrives : Arrives control text u (q.run setup filters)) :
    Arrives control (String.join (outer.flatten ++ level) ++ text) u (p.run setup filters) := by
  induction h generalizing text with
  | start =>
    show Arrives control ("" ++ text) u _
    rwa [String.empty_append]
  | @next outer level t n node rest s s' front _ hrun ih =>
    have hjoin : String.join (outer.flatten ++ (level ++ [front])) ++ text =
        String.join (outer.flatten ++ level) ++ (front ++ text) := by
      rw [← List.append_assoc]
      exact congrFun (join_concat_append _ _) text
    rw [hjoin]
    apply ih
    rw [Point.run_cons_of_ok hrun]
    refine ⟨?_, harrives.root, harrives.registers, harrives.store⟩
    exact congrArg (Render.afterOutcome front) harrives.signal
  | @body outer level t n i head bodies token rest body s s' _ henters hhands hbody ih =>
    rw [List.flatten_append, List.flatten_singleton, List.append_nil]
    apply ih
    rw [Point.run_of_body henters hhands.not_repeats hbody (Prod.ext harrives.signal rfl)]
    exact ⟨rfl, harrives.root, harrives.registers, harrives.store⟩
  | @inclusion outer level t n name params bodies token rest s s₁ s₂ v issued frame _ hname hload
      hframe ih =>
    rw [List.flatten_append, List.flatten_singleton, List.append_nil]
    apply ih
    rw [Point.run_of_inclusion hname hload hframe (Prod.ext harrives.signal rfl)]
    exact ⟨rfl, harrives.root, harrives.registers, harrives.store⟩

/-- A tag that raises a signal sends the texts before it. -/
theorem Descends.signal_arrives (h : Descends setup filters p outer level q)
    (hsignal : q.Signals control) :
    Arrives control (String.join (outer.flatten ++ level)) q.state (p.run setup filters) := by
  have harrives := h.arrives hsignal.arrives
  rwa [String.append_empty] at harrives

/-- A signal stops at the point that a rendering begins with, at the body of a loop in a round, and
at the body of a capture. -/
inductive Stops (setup : Setup) (filters : Filters) (start : Point) : Point → Prop
  | top : Stops setup filters start start
  | round {t : Template} {n i : Nat} {l : Loop} {bodies : List (List Node)} {token : Token}
      {rest body : List Node} {s s₁ u : Rendering} {items left : List Value} {item : Value}
      {texts : List String}
      (h : Relation.ReflTransGen (Leads setup filters) start
        ⟨t, n + 1, .tag (.loop l) bodies token :: rest, s⟩)
      (hbody : bodies[0]? = some body) (hvisited : l.visited.run.run s = (.ok items, s₁))
      (hcomes : Loop.Comes l.var items.length (renderIn setup filters (n + 1) body) 0 items
        (s₁.withScope (Scope.push · [])) texts i (item :: left) u) :
      Stops setup filters start ⟨t, n + 1, body, Loop.roundState l.var items.length i item u⟩
  | capture {t : Template} {n : Nat} {name : String} {bodies : List (List Node)} {token : Token}
      {rest body : List Node} {s : Rendering}
      (h : Relation.ReflTransGen (Leads setup filters) start
        ⟨t, n + 1, .tag (.capture name) bodies token :: rest, s⟩)
      (hbody : bodies[0]? = some body) : Stops setup filters start ⟨t, n + 1, body, s⟩

/-- A body that does not hand signals on stops them. -/
theorem Head.Enters.stops {start : Point} {t : Template} {n i : Nat} {head : Head}
    {bodies : List (List Node)} {token : Token} {rest body : List Node} {s s' : Rendering}
    (h : head.Enters (Node.renderBodies filters (fetch setup filters n) bodies) s i s')
    (hbody : bodies[i]? = some body) (hhands : ¬ head.HandsOn i)
    (hreach : Relation.ReflTransGen (Leads setup filters) start
      ⟨t, n + 1, .tag head bodies token :: rest, s⟩) :
    Stops setup filters start ⟨t, n + 1, body, s'⟩ := by
  cases h with
  | capture => exact .capture hreach hbody
  | @round l items s₁ _ hvisited hstart =>
    rw [Node.bodyAt_renderBodies hbody] at hstart
    obtain ⟨texts, k, item, left, u, hcomes, rfl⟩ := hstart.exists_comes .start
    exact .round hreach hbody hvisited hcomes
  | _ => exact (hhands trivial).elim

/-- A rendering comes to every point from one at which signals stop. -/
theorem exists_descends {start : Point} (h : Relation.ReflTransGen (Leads setup filters) start q) :
    ∃ p outer level, Stops setup filters start p ∧ Descends setup filters p outer level q := by
  induction h with
  | refl => exact ⟨start, [], [], .top, .start⟩
  | tail hreach hstep ih =>
    obtain ⟨p, outer, level, hstops, hdescends⟩ := ih
    cases hstep with
    | next hrun => exact ⟨p, outer, _, hstops, hdescends.next hrun⟩
    | inclusion hname hload hframe =>
      exact ⟨p, _, [], hstops, hdescends.inclusion hname hload hframe⟩
    | @body _ _ i head _ _ _ _ _ _ henters hbody =>
      by_cases hhands : head.HandsOn i
      · exact ⟨p, _, [], hstops, hdescends.body henters hhands hbody⟩
      · exact ⟨_, [], [], henters.stops hbody hhands hreach, .start⟩

end Points

namespace Engine

open Template (inclusionBound)

/-- The point that the rendering of a template in a scope begins with. -/
def start (e : Engine) (scope : Scope) (t : Template) : Point :=
  ⟨t, inclusionBound, t.nodes, ⟨scope, e.store⟩⟩

/-- Rendering a template is running from its first point. -/
theorem renderInScope_eq_run_start (e : Engine) (options : Options) (scope : Scope) (t : Template) :
    (e.renderInScope options scope t).1 =
      ((e.start scope t).run e.setup (e.filtersFor options)).1 :=
  rfl

/-- The signals that are raised while a template is rendered keep exactly the text before them, and
none of them leaves the loop around it or the rendering. -/
structure SignalsContained (e : Engine) (options : Options) (t : Template) : Prop where
  /-- Every tag that raises a signal is come to from a point at which the signal stops. -/
  stops : ∀ scope q control,
    Relation.ReflTransGen (Leads e.setup (e.filtersFor options)) (e.start scope t) q →
      q.Signals control → ∃ p outer level,
        Stops e.setup (e.filtersFor options) (e.start scope t) p ∧
          Descends e.setup (e.filtersFor options) p outer level q
  /-- A signal arrives there with the texts before it, those of the outermost sequence first; blocks
  on the way are not kept. -/
  arrives : ∀ p outer level q control,
    Descends e.setup (e.filtersFor options) p outer level q → q.Signals control →
      Arrives control (String.join (outer.flatten ++ level)) q.state
        (p.run e.setup (e.filtersFor options))
  /-- A loop takes the text of the signal for that of the round, and goes on behind it on `continue`
  only. -/
  caught : ∀ n (l : Loop) bodies body s items s₁ texts i item left u control text u',
    bodies[0]? = some body → l.visited.run.run s = (.ok items, s₁) →
      Loop.Comes l.var items.length (renderIn e.setup (e.filtersFor options) (n + 1) body) 0 items
        (s₁.withScope (Scope.push · [])) texts i (item :: left) u →
      (renderIn e.setup (e.filtersFor options) (n + 1) body).run.run
        (Loop.roundState l.var items.length i item u) = (.error (.interrupt control text), u') →
      (l.render (Node.renderBodies (e.filtersFor options)
        (fetch e.setup (e.filtersFor options) n) bodies)).run.run s =
          Prod.map id (Rendering.withScope · Scope.pop)
            (((String.join (texts ++ [text]) ++ ·) <$> Loop.resume control
              (Loop.rounds l.var items.length
                (renderIn e.setup (e.filtersFor options) (n + 1) body) (i + 1) left)).run.run u')
  /-- A signal that leaves a loop comes from its second body. -/
  held : ∀ (l : Loop) bodies s s' control text,
    (l.render bodies).run.run s = (.error (.interrupt control text), s') →
      ∃ s₁, l.visited.run.run s = (.ok [], s₁) ∧
        (Render.bodyAt bodies 1).run.run s₁ = (.error (.interrupt control text), s')
  /-- A rendering has no signal for its outcome. -/
  quiet : ∀ data, NoSignal (e.render options t data).1
  /-- A signal that no loop catches ends the rendering with the texts before it. -/
  ends : ∀ data root outer level q control, rootFrame data = .ok root →
    Descends e.setup (e.filtersFor options) (e.start (Scope.ofData root options) t) outer level q →
      q.Signals control → (e.render options t data).1 = .ok (String.join (outer.flatten ++ level))

/-- What rendering a template gives is no signal. -/
theorem noSignal_rendered (r : Except Error String) : NoSignal (rendered r) := by
  unfold rendered
  split
  · exact noSignal_ok _
  · next hne => exact hne

/-- The signals of tags `break` and `continue` keep exactly the text before them, in every template
and every scope, and stop at the nearest loop, or otherwise at the end of the rendering. -/
theorem signals_contained (e : Engine) (options : Options) (t : Template) :
    e.SignalsContained options t where
  stops _ _ _ hreach _ := exists_descends hreach
  arrives _ _ _ _ _ hdescends hsignal := hdescends.signal_arrives hsignal
  caught n l bodies body s items s₁ texts i item left u control text u' hbody hvisited hcomes
      hrun := by
    rw [← Node.bodyAt_renderBodies hbody] at hcomes hrun ⊢
    exact Loop.run_render_of_interrupt hvisited hcomes hrun
  held _ _ _ _ _ _ hrun := Loop.render_interrupted hrun
  quiet data := by
    unfold render
    cases data with
    | object fields => exact noSignal_rendered _
    | null => exact noSignal_rendered _
    | _ => exact nofun
  ends data root outer level q control hroot hdescends hsignal := by
    have houtcome := (e.renderInScope_eq_run_start options _ t).trans
      (hdescends.signal_arrives hsignal).signal
    rw [render, hroot]
    dsimp only
    rw [houtcome]
    rfl

example : ((ofSources {} []).parseAndRender
    ("a\x7b% for i in (1..3) %\x7db\x7b% if i == 2 %\x7dc\x7b% continue %\x7d" ++
      "\x7b% endif %\x7dd\x7b% endfor %\x7de") .null).1.toOption = some "abdbcbde" := by
  decide +kernel

/-- If some nodes are a text and then a block of a text and a condition that holds, in which a tag
`break` follows a text, the texts before the tag. -/
def brokenBlock? : List Node → Option (List (List String) × List String)
  | .literal a :: .tag (.block _) [.literal b :: .tag (.conditional [c])
      [.literal d :: .tag (.signal .break) _ _ :: _] _ :: _] _ :: _ =>
    match c.eval (Scope.ofData [] {}) with
    | .ok true => some ([[a.value], [b.value]], [d.value])
    | _ => none
  | _ => none

/-- The template comes to the tag for the signal, with these texts in front of it. -/
theorem exists_descends_brokenBlock {e : Engine} {t : Template}
    {texts : List (List String) × List String} (h : brokenBlock? t.nodes = some texts) :
    ∃ q, Descends e.setup (e.filtersFor {}) (e.start (Scope.ofData [] {}) t) texts.1 texts.2 q ∧
      q.Signals .break := by
  unfold brokenBlock? at h
  split at h
  · next a name b c d bodies token rest₁ place₁ rest₂ place₂ rest₃ hnodes =>
    split at h
    · next hholds =>
      cases h
      rw [start, hnodes, show inclusionBound = 999999 + 1 from rfl]
      exact ⟨_, ((((Descends.start.next rfl).body (.block rfl) trivial rfl).next rfl).body
        (.conditional (.holds hholds)) trivial rfl).next rfl, .intro ..⟩
    · cases h
  · cases h

/-- A template in which a block and a condition in it end with a tag `break`. -/
def brokenBlockSource : String :=
  "a\x7b% block x %\x7db\x7b% if 1 %\x7dc\x7b% break %\x7d" ++
    "d\x7b% endif %\x7de\x7b% endblock %\x7df"

/-- A signal in a branch of a block ends the rendering with the texts in front of it. -/
theorem signals_contained_brokenBlock : ∃ issued q,
    ((ofSources {} []).parse none brokenBlockSource).1 = .ok issued ∧ q.Signals .break ∧
      Descends (ofSources {} []).setup ((ofSources {} []).filtersFor {})
        ((ofSources {} []).start (Scope.ofData [] {}) issued.template) [["a"], ["b"]] ["c"] q ∧
      ((ofSources {} []).render {} issued.template .null).1 = .ok "abc" := by
  have hcheck : ((ofSources {} []).parse none brokenBlockSource).1.toOption.map (fun issued =>
      brokenBlock? issued.template.nodes) = some (some ([["a"], ["b"]], ["c"])) := by
    decide +kernel
  obtain ⟨issued, hparse, htexts⟩ := exists_ok_of_map_toOption hcheck
  obtain ⟨q, hdescends, hsignal⟩ := exists_descends_brokenBlock htexts
  exact ⟨issued, q, hparse, hsignal, hdescends,
    (signals_contained _ _ _).ends .null [] _ _ q .break rfl hdescends hsignal⟩

end Engine

end Stencil
