import Stencil.Proofs.Render.Origins

/-!
# What becomes of captured text

A tag `capture` whose body is rendered to its end binds the text of the body in the root frame and
renders nothing.  A body that fails makes everything around it fail (`failed_of_reflTransGen`), so
its text is lost.  A body that a signal interrupts passes its text on with the signal: neither of
them is caught before the nearest loop or the end of the rendering, and there the text stands behind
that of the nodes before the tag (`Capture.Outcomes`).  So captured text is never printed exactly if
no signal interrupts the body behind a text (`Engine.capture_silent_iff`).
-/

set_option autoImplicit false

namespace Stencil

open Template (fetch inclusionBound renderIn)

/-- An outcome that is an error other than a signal. -/
def Failed {α : Type} (r : Except Error α) : Prop :=
  ∃ e, r = .error e ∧ e.IsFault

/-- What fails at a point fails at every point that leads to it. -/
theorem failed_of_reflTransGen {setup : Setup} {filters : Filters} {p q : Point}
    (h : Relation.ReflTransGen (Leads setup filters) p q) (hq : Failed (q.run setup filters).1) :
    Failed (p.run setup filters).1 := by
  obtain ⟨e, he, hfault⟩ := hq
  exact ⟨e, run_of_reflTransGen h hfault he, hfault⟩

/-- A tag `capture` that is about to be rendered in a state, in a template with nodes behind the
tag. -/
structure Capture where
  template : Template
  depth : Nat
  name : String
  bodies : List (List Node)
  token : Token
  rest : List Node
  state : Rendering

namespace Capture

/-- The point at which the tag stands. -/
def point (c : Capture) : Point :=
  ⟨c.template, c.depth + 1, .tag (.capture c.name) c.bodies c.token :: c.rest, c.state⟩

/-- The point at which the body of the tag begins. -/
def body (c : Capture) : Point :=
  ⟨c.template, c.depth + 1, c.bodies.headD [], c.state⟩

/-- The outcome of the tag alone, and the state that it leaves. -/
def run (setup : Setup) (filters : Filters) (c : Capture) : Except Error String × Rendering :=
  ((Node.tag (.capture c.name) c.bodies c.token).render filters
    (fetch setup filters c.depth)).run.run c.state

/-- The variable of a capture has the value in a state that it had before, unless a tag in the body
binds it. -/
def KeepsBinding (setup : Setup) (filters : Filters) (c : Capture) (s : Rendering) : Prop :=
  ¬ c.body.Binds setup filters c.name →
    Dict.find? c.name s.scope.root = Dict.find? c.name c.state.scope.root

/-- What becomes of the text of the body of a capture. -/
structure Outcomes (setup : Setup) (filters : Filters) (c : Capture) : Prop where
  /-- The text of a body that is rendered to its end is bound, and nothing is rendered. -/
  renders : ∀ text s, c.body.run setup filters = (.ok text, s) →
    c.run setup filters = (.ok "", s.withScope (Scope.setRoot · c.name (.string text)))
  /-- If the body fails, nothing is bound, and everything around the tag fails. -/
  fails : ∀ e s, c.body.run setup filters = (.error e, s) → e.IsFault →
    c.run setup filters = (.error (e.orAt c.token.position), s) ∧
      c.KeepsBinding setup filters s ∧
        ∀ p, Relation.ReflTransGen (Leads setup filters) p c.point →
          Failed (p.run setup filters).1
  /-- If a signal interrupts the body, nothing is bound, and the signal goes on with the text of the
  body behind the texts before the tag. -/
  interrupted : ∀ control text s,
    c.body.run setup filters = (.error (.interrupt control text), s) →
      c.run setup filters = (.error (.interrupt control text), s) ∧
        c.KeepsBinding setup filters s ∧
          ∀ p outer level, Descends setup filters p outer level c.point →
            (p.run setup filters).1 =
              .error (.interrupt control (String.join (outer.flatten ++ level) ++ text))

/-- When a signal interrupts the body of a capture, what it carries outside of the tag is the texts
before the tag and nothing else. -/
def Silent (setup : Setup) (filters : Filters) (c : Capture) : Prop :=
  ∀ control text s, c.body.run setup filters = (.error (.interrupt control text), s) →
    ∀ p outer level, Descends setup filters p outer level c.point →
      (p.run setup filters).1 = .error (.interrupt control (String.join (outer.flatten ++ level)))

variable {setup : Setup} {filters : Filters} {c : Capture}

/-- A capture binds the text of its body, if that has an outcome other than an error. -/
theorem run_eq (c : Capture) : c.run setup filters =
    match c.body.run setup filters with
    | (.ok text, s) => (.ok "", s.withScope (Scope.setRoot · c.name (.string text)))
    | (.error e, s) => (.error (e.orAt c.token.position), s) := by
  show (Render.located c.token.position (Render.bodyAt
    (Node.renderBodies filters (fetch setup filters c.depth) c.bodies) 0 >>= fun text =>
      Render.modifyScope (Scope.setRoot · c.name (.string text)) >>= fun _ => pure "")).run.run
        c.state = _
  rw [Render.run_located, Node.bodyAt_renderBodies_zero, run_bind]
  rw [show c.body.run setup filters = (renderIn setup filters (c.depth + 1)
    (c.bodies.headD [])).run.run c.state from rfl]
  generalize (renderIn setup filters (c.depth + 1) (c.bodies.headD [])).run.run c.state = outcome
  obtain ⟨r, s⟩ := outcome
  cases r <;> rfl

/-- A capture whose body fails fails with the same error. -/
theorem run_of_error {e : Error} {s : Rendering}
    (h : c.body.run setup filters = (.error e, s)) :
    c.run setup filters = (.error (e.orAt c.token.position), s) := by
  rw [run_eq, h]

/-- Behind a capture whose body fails, nothing is rendered. -/
theorem run_point_of_error {e : Error} {s : Rendering}
    (h : c.body.run setup filters = (.error e, s)) :
    c.point.run setup filters = (.error (e.orAt c.token.position), s) :=
  run_bind_of_error (run_of_error h) _

/-- A capture does not bind its variable before its body is rendered to the end. -/
theorem keepsBinding (htags : setup.tags = TagKind.builtin)
    (hbody : Node.BuiltinAll c.body.nodes) (hstore : c.state.store.Builtin)
    {r : Except Error String} {s : Rendering} (h : c.body.run setup filters = (r, s)) :
    c.KeepsBinding setup filters s := by
  intro hbinds
  have hkept : c.state.Kept (c.body.Binds setup filters) (c.body.run setup filters).2 :=
    keepsIn htags (c.depth + 1) c.template c.body.nodes c.state hbody (fun _ hx => hx) hstore
  have hs : s = (c.body.run setup filters).2 := by
    rw [h]
  rw [hs]
  exact hkept.scope.root c.name hbinds

/-- What becomes of the text of a capture that is come to in a rendering of built-in tags. -/
theorem outcomes (htags : setup.tags = TagKind.builtin)
    (hbody : Node.BuiltinAll c.body.nodes) (hstore : c.state.store.Builtin) :
    c.Outcomes setup filters where
  renders text s h := by
    rw [run_eq, h]
  fails e s h he := by
    refine ⟨run_of_error h, keepsBinding htags hbody hstore h, fun p hreach => ?_⟩
    apply failed_of_reflTransGen hreach
    rw [run_point_of_error h]
    exact ⟨_, rfl, he.orAt c.token.position⟩
  interrupted control text s h := by
    refine ⟨run_of_error h, keepsBinding htags hbody hstore h, fun p outer level hdescends => ?_⟩
    apply Arrives.signal (s := s)
    apply hdescends.arrives
    rw [run_point_of_error h]
    exact ⟨rfl, rfl, rfl, rfl⟩

/-- A capture is silent just if the signals that leave its body carry no text. -/
theorem Outcomes.silent_iff (h : c.Outcomes setup filters) : c.Silent setup filters ↔
    ∀ control text s, c.body.run setup filters = (.error (.interrupt control text), s) →
      text = "" := by
  constructor
  · intro hsilent control text s hrun
    have hcarried := (h.interrupted control text s hrun).2.2 c.point [] [] .start
    rw [hsilent control text s hrun c.point [] [] .start] at hcarried
    injection hcarried with hsignal
    injection hsignal with _ htext
    exact (htext.trans String.empty_append).symm
  · intro hempty control text s hrun p outer level hdescends
    rw [(h.interrupted control text s hrun).2.2 p outer level hdescends, hempty control text s hrun,
      String.append_empty]

end Capture

namespace Engine

/-- A tag `capture` that a rendering of built-in tags comes to renders nothing and binds the text of
its body, or, if that text is not rendered to its end, does not bind anything; a failure of the body
is one of the rendering.  Its text gets out only with a signal, and it never does exactly if every
signal that interrupts the body is raised before any text. -/
theorem capture_silent_iff {e : Engine} (he : e.Builtin) {options : Options} {scope : Scope}
    {t : Template} (ht : t.Builtin) {c : Capture}
    (hreach : Relation.ReflTransGen (Leads e.setup (e.filtersFor options)) (e.start scope t)
      c.point) :
    c.Outcomes e.setup (e.filtersFor options) ∧
      (c.Silent e.setup (e.filtersFor options) ↔ ∀ control text s,
        c.body.run e.setup (e.filtersFor options) = (.error (.interrupt control text), s) →
          text = "") := by
  obtain ⟨names, hframed⟩ := exists_framed hreach
  obtain ⟨⟨⟨-, hbodies⟩, -⟩, hs⟩ := hframed.surrounded he.tags ht he.store
  have hbody : Node.BuiltinAll c.body.nodes := by
    show Node.BuiltinAll (c.bodies.headD [])
    cases hc : c.bodies with
    | nil => trivial
    | cons body bodies =>
      rw [hc] at hbodies
      exact hbodies.1
  have houtcomes : c.Outcomes e.setup (e.filtersFor options) :=
    Capture.outcomes he.tags hbody hs.store
  exact ⟨houtcomes, houtcomes.silent_iff⟩

/-- A template that captures something behind a text. -/
def captureSource (inner : String) : String :=
  "a\x7b% capture x %\x7d" ++ inner ++ "\x7b% endcapture %\x7d"

/-- If some nodes are a text and then a capture whose body is interrupted by `break` when it is
rendered first, then the text that the signal carries. -/
def capturedSignal? (e : Engine) : List Node → Option String
  | .literal _ :: .tag (.capture _) [body] _ :: _ =>
    match (renderIn e.setup (e.filtersFor {}) inclusionBound body).run.run
      ⟨Scope.ofData [] {}, e.store⟩ with
    | (.error (.interrupt .break text), _) => some text
    | _ => none
  | _ => none

/-- The capture that a rendering of the template comes to. -/
theorem exists_capture {e : Engine} {inner text : String}
    (hcheck : (e.parse none (captureSource inner)).1.toOption.map
      (fun issued => capturedSignal? e issued.template.nodes) = some (some text)) :
    ∃ (issued : Issued) (c : Capture) (s : Rendering),
      (e.parse none (captureSource inner)).1 = .ok issued ∧
      Relation.ReflTransGen (Leads e.setup (e.filtersFor {}))
        (e.start (Scope.ofData [] {}) issued.template) c.point ∧
      c.body.run e.setup (e.filtersFor {}) = (.error (.interrupt .break text), s) := by
  obtain ⟨issued, hparse, h⟩ := exists_ok_of_map_toOption hcheck
  unfold capturedSignal? at h
  split at h
  · next a name body token rest hnodes =>
    split at h
    · next signal s hrun =>
      cases h
      refine ⟨issued, ⟨issued.template, 999999, name, [body], token, rest, _⟩, s, hparse, ?_, hrun⟩
      rw [start, hnodes]
      exact .single (.next rfl)
    · cases h
  · cases h

/-- The criterion applies to a capture of a signal alone. -/
theorem capture_silent_iff_breakOnly : ∃ (issued : Issued) (c : Capture),
    ((ofSources {} []).parse none (captureSource "\x7b% break %\x7d")).1 = .ok issued ∧
      (ofSources {} []).Builtin ∧ issued.template.Builtin ∧
      Relation.ReflTransGen (Leads (ofSources {} []).setup ((ofSources {} []).filtersFor {}))
        ((ofSources {} []).start (Scope.ofData [] {}) issued.template) c.point ∧
      c.Outcomes (ofSources {} []).setup ((ofSources {} []).filtersFor {}) ∧
      (c.Silent (ofSources {} []).setup ((ofSources {} []).filtersFor {}) ↔ ∀ control text s,
        c.body.run (ofSources {} []).setup ((ofSources {} []).filtersFor {}) =
          (.error (.interrupt control text), s) → text = "") := by
  have hcheck : ((ofSources {} []).parse none (captureSource "\x7b% break %\x7d")).1.toOption.map
      (fun issued => capturedSignal? (ofSources {} []) issued.template.nodes) = some (some "") := by
    decide +kernel
  obtain ⟨issued, c, s, hparse, hreach, hrun⟩ := exists_capture hcheck
  have he : (ofSources {} []).Builtin := builtin_ofSources _ _
  have ht : issued.template.Builtin := (he.parse none _).2 issued hparse
  exact ⟨issued, c, hparse, he, ht, hreach, capture_silent_iff he ht hreach⟩

/-- Behind a text in the body of a capture, a tag `break` prints the text. -/
theorem brokenCapture_not_silent : ∃ (issued : Issued) (c : Capture) (s : Rendering),
    ((ofSources {} []).parse none (captureSource "b\x7b% break %\x7d")).1 = .ok issued ∧
      Relation.ReflTransGen (Leads (ofSources {} []).setup ((ofSources {} []).filtersFor {}))
        ((ofSources {} []).start (Scope.ofData [] {}) issued.template) c.point ∧
      c.body.run (ofSources {} []).setup ((ofSources {} []).filtersFor {}) =
        (.error (.interrupt .break "b"), s) ∧
      ¬ c.Silent (ofSources {} []).setup ((ofSources {} []).filtersFor {}) ∧
      ((ofSources {} []).parseAndRender (captureSource "b\x7b% break %\x7d") .null).1.toOption =
        some "ab" := by
  have hcheck : ((ofSources {} []).parse none (captureSource "b\x7b% break %\x7d")).1.toOption.map
      (fun issued => capturedSignal? (ofSources {} []) issued.template.nodes) =
        some (some "b") := by
    decide +kernel
  have hrendered : ((ofSources {} []).parseAndRender (captureSource "b\x7b% break %\x7d")
      .null).1.toOption = some "ab" := by
    decide +kernel
  obtain ⟨issued, c, s, hparse, hreach, hrun⟩ := exists_capture hcheck
  refine ⟨issued, c, s, hparse, hreach, hrun, fun hsilent => ?_, hrendered⟩
  have hcarried := hsilent .break "b" s hrun c.point [] [] .start
  rw [Capture.run_point_of_error hrun] at hcarried
  injection hcarried with hsignal
  injection hsignal with _ htext
  exact absurd htext (by decide)

end Engine

end Stencil
