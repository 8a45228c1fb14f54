import Stencil.Proofs.Number.Whole
import Stencil.Proofs.Render.Inlining

/-!
# Loops as folds

A loop selects items from a collection and renders its body for one after the other.  A round adds
its text to those of the rounds before it, also when a signal ends the round, and hands its state
on; a round that breaks or fails is the last one that is rendered (`Loop.Course.round`).  So the
rounds of a loop are the fold of this step over the numbered items (`Loop.Course.outcome_start`).
In a template of built-in tags nothing but the loop binds in its frame, and so every round begins
with a frame that binds the variable of the loop and `forloop` alone (`Loop.Course.fresh_behind`).
-/

set_option autoImplicit false

namespace Stencil

open Template (fetch renderIn)

namespace Loop

section Selecting

/-- The number that a count is taken from, if any: there is none without an operand and for null. -/
inductive Counted (scope : Scope) : Option Operand → Option Number → Prop
  | absent : Counted scope none none
  | null {o : Operand} (h : o.eval scope = .ok .null) : Counted scope (some o) none
  | number {o : Operand} {n : Number} (h : o.eval scope = .ok (.number n)) :
      Counted scope (some o) (some n)

/-- The items of a value behind those that an offset counts, up to the number that a limit counts,
and in reverse if the loop is reversed. -/
def selected (l : Loop) (count : Number → Nat) (v : Value) (offset limit : Option Number) :
    List Value :=
  let behind := v.items.drop (min ((offset.map count).getD 0) v.items.length)
  let kept := match limit with
    | none => behind
    | some n => behind.take (count n)
  if l.reversed then kept.reverse else kept

/-- The whole part of a number as a loop counts it. -/
def countOf (n : Number) : Nat :=
  Number.truncateUnsigned n.toFloat

/-- The count of a loop is that of its operand, and nothing is changed. -/
theorem run_count {operand : Option Operand} {s : Rendering} {n : Option Number}
    (h : Counted s.scope operand n) :
    (count operand).run.run s = (.ok (n.map countOf), s) := by
  cases h with
  | absent => rfl
  | null h =>
    rw [count, run_bind, Render.run_eval, h]
    rfl
  | number h =>
    rw [count, run_bind, Render.run_eval, h]
    rfl

/-- The items that a loop visits are those behind the offset, up to the limit, and in reverse if so
asked. -/
theorem select_eq_selected (l : Loop) (v : Value) (offset limit : Option Number) :
    select v.items ((offset.map countOf).getD 0) (limit.map countOf) l.reversed =
      l.selected countOf v offset limit := by
  have hdrop : v.items.drop (min ((offset.map countOf).getD 0) v.items.length) =
      v.items.drop ((offset.map countOf).getD 0) := by
    rw [← List.drop_eq_drop_min]
  unfold select selected
  rw [hdrop]
  cases limit <;> rfl

variable {l : Loop} {s : Rendering} {v : Value} {offset limit : Option Number}

/-- A loop whose operands have values visits the items that they select. -/
theorem run_visited_eq (hcollection : l.collection.eval s.scope = .ok v)
    (hoffset : Counted s.scope l.offset offset) (hlimit : Counted s.scope l.limit limit) :
    l.visited.run.run s = (.ok (l.selected countOf v offset limit), s) := by
  rw [visited, run_bind, Render.run_eval, hcollection]
  dsimp only
  rw [run_bind, run_count hoffset]
  dsimp only
  rw [run_bind, run_count hlimit, ← select_eq_selected]
  rfl

/-- A list of at most `2 ^ 53` items is cut as exact counts cut it. -/
theorem selected_eq_selected_whole (l : Loop) {v : Value} (hlength : v.items.length ≤ 2 ^ 53)
    (offset limit : Option Number) :
    l.selected countOf v offset limit = l.selected Number.whole v offset limit := by
  have hcount (n : Number) : min (countOf n) (2 ^ 53) = min n.whole (2 ^ 53) :=
    n.min_truncateUnsigned
  have hdrop : min ((offset.map countOf).getD 0) v.items.length =
      min ((offset.map Number.whole).getD 0) v.items.length := by
    cases offset with
    | none => rfl
    | some n =>
      have hn := hcount n
      show min (countOf n) _ = min n.whole _
      omega
  have htake (n : Number) (items : List Value) (hitems : items.length ≤ 2 ^ 53) :
      items.take (countOf n) = items.take n.whole := by
    have hn := hcount n
    rw [List.take_eq_take_iff]
    omega
  unfold selected
  rw [hdrop]
  cases limit with
  | none => rfl
  | some n =>
    have hbehind : (v.items.drop (min ((offset.map Number.whole).getD 0)
        v.items.length)).length ≤ 2 ^ 53 := by
      rw [List.length_drop]
      omega
    dsimp only
    rw [htake n _ hbehind]

end Selecting

/-- How a loop goes on behind some rounds. -/
inductive Stage where
  | runs
  | broke
  | failed (e : Error)

/-- How far a loop got: the texts of its rounds one after the other, the state that they left, and
how the loop goes on. -/
structure Course where
  text : String
  state : Rendering
  stage : Stage

namespace Course

/-- The outcome of a loop that got so far and has no round left. -/
def outcome (c : Course) : Except Error String :=
  match c.stage with
  | .failed e => .error e
  | _ => .ok c.text

/-- One more round, for an item and its number. -/
def round (var : String) (length : Nat) (body : Render String) (c : Course) (item : Value × Nat) :
    Course :=
  match c.stage with
  | .runs =>
    match body.run.run (roundState var length item.2 item.1 c.state) with
    | (.ok text, s) => ⟨c.text ++ text, s, .runs⟩
    | (.error (.interrupt .continue text), s) => ⟨c.text ++ text, s, .runs⟩
    | (.error (.interrupt .break text), s) => ⟨c.text ++ text, s, .broke⟩
    | (.error e, s) => ⟨c.text, s, .failed e⟩
  | _ => c

/-- The course behind the rounds for some numbered items. -/
def behind (var : String) (length : Nat) (body : Render String) (c : Course)
    (items : List (Value × Nat)) : Course :=
  items.foldl (round var length body) c

section Rounds

variable {var : String} {length : Nat} {body : Render String}

/-- Behind a break, no item is visited. -/
theorem behind_of_broke (text : String) (s : Rendering) (items : List (Value × Nat)) :
    behind var length body ⟨text, s, .broke⟩ items = ⟨text, s, .broke⟩ := by
  induction items with
  | nil => rfl
  | cons item rest ih => exact ih

/-- Behind an error, no item is visited. -/
theorem behind_of_failed (text : String) (s : Rendering) (e : Error) (items : List (Value × Nat)) :
    behind var length body ⟨text, s, .failed e⟩ items = ⟨text, s, .failed e⟩ := by
  induction items with
  | nil => rfl
  | cons item rest ih => exact ih

/-- A loop that goes on went on before. -/
theorem stage_of_round {c : Course} {item : Value × Nat}
    (h : (c.round var length body item).stage = .runs) : c.stage = .runs := by
  obtain ⟨text, s, stage⟩ := c
  cases stage with
  | runs => rfl
  | broke | failed => exact h

/-- A loop that still runs behind some items ran before them. -/
theorem stage_of_behind {c : Course} {items : List (Value × Nat)}
    (h : (c.behind var length body items).stage = .runs) : c.stage = .runs := by
  induction items generalizing c with
  | nil => exact h
  | cons item rest ih => exact stage_of_round (ih h)

/-- A round leaves behind what its body leaves behind. -/
theorem state_round {c : Course} (h : c.stage = .runs) (item : Value × Nat) :
    (c.round var length body item).state =
      (body.run.run (roundState var length item.2 item.1 c.state)).2 := by
  obtain ⟨text, s, stage⟩ := c
  cases h
  unfold round
  dsimp only
  rcases body.run.run (roundState var length item.2 item.1 s) with ⟨r, u⟩
  cases r with
  | ok more => rfl
  | error e =>
    cases e with
    | interrupt control more => cases control <;> rfl
    | _ => rfl

/-- What the rounds from an index on render is what the fold over them makes of a course. -/
theorem outcome_behind (text : String) (index : Nat) (items : List Value) (s : Rendering) :
    ((behind var length body ⟨text, s, .runs⟩ (items.zipIdx index)).outcome,
      (behind var length body ⟨text, s, .runs⟩ (items.zipIdx index)).state) =
        ((text ++ ·) <$> rounds var length body index items).run.run s := by
  induction items generalizing text index s with
  | nil =>
    show (Except.ok text, s) = (Except.ok (text ++ ""), s)
    rw [String.append_empty]
  | cons item rest ih =>
    have hmore (more : String) : (text ++ ·) ∘ (more ++ ·) = (text ++ more ++ ·) := by
      funext last
      exact String.append_assoc.symm
    rw [List.zipIdx_cons, run_map]
    show ((behind var length body (round var length body ⟨text, s, .runs⟩ (item, index))
      (rest.zipIdx (index + 1))).outcome, (behind var length body
        (round var length body ⟨text, s, .runs⟩ (item, index))
          (rest.zipIdx (index + 1))).state) = _
    unfold round
    dsimp only
    rcases hrun : body.run.run (roundState var length index item s) with ⟨r, u⟩
    cases r with
    | ok more =>
      have hround : (Render.round body).run.run (roundState var length index item s) =
          (.ok (more, true), u) := by
        rw [Render.run_round, hrun]
        rfl
      rw [run_rounds_of_round hround, ← run_map, ← comp_map, hmore]
      exact ih (text ++ more) (index + 1) u
    | error e =>
      cases e with
      | interrupt control more =>
        rw [run_rounds_of_interrupt hrun, ← run_map, ← comp_map, hmore]
        cases control with
        | «continue» => exact ih (text ++ more) (index + 1) u
        | «break» =>
          dsimp only
          rw [behind_of_broke]
          show (Except.ok (text ++ more), u) = (Except.ok (text ++ more ++ ""), u)
          rw [String.append_empty]
      | _ =>
        rw [Starts.first.run_rounds_of_fault hrun trivial]
        dsimp only
        rw [behind_of_failed]
        rfl

/-- The rounds of a loop are the fold over its numbered items. -/
theorem outcome_start (items : List Value) (s : Rendering) :
    ((behind var length body ⟨"", s, .runs⟩ items.zipIdx).outcome,
      (behind var length body ⟨"", s, .runs⟩ items.zipIdx).state) =
        (rounds var length body 0 items).run.run s := by
  have htext : (("" ++ ·) : String → String) = id := by
    funext text
    exact String.empty_append
  rw [outcome_behind, htext, id_map]

end Rounds

end Course

section Frames

variable {var : String} {length index : Nat} {body : Render String} {item : Value}
  {base : List (Dict Value)} {frame : Dict Value}

/-- The frame in which a round begins: it binds the variable of the loop and then `forloop`. -/
def roundFrame (var : String) (length index : Nat) (item : Value) (frame : Dict Value) :
    Dict Value :=
  Dict.insert "forloop" (state index length) (Dict.insert var item frame)

/-- A round sets its variables in the innermost frame. -/
theorem inner_roundState {s : Rendering} (h : s.scope.inner = frame :: base) :
    (roundState var length index item s).scope.inner =
      roundFrame var length index item frame :: base := by
  show ((s.scope.set var item).set "forloop" (state index length)).inner = _
  have hset : s.scope.set var item =
      { s.scope with inner := Dict.insert var item frame :: base } := by
    rw [Scope.set, h]
  rw [hset]
  rfl

/-- A round leaves nothing behind that the frame of the next one would show. -/
theorem roundFrame_roundFrame (var : String) (length length' index index' : Nat)
    (item item' : Value) : roundFrame var length' index' item'
      (roundFrame var length index item []) = roundFrame var length' index' item' [] := by
  unfold roundFrame
  grind [Dict.insert]

/-- While a loop goes on, its frame shows nothing in the next round but what the round binds. -/
structure Course.Fresh (var : String) (base : List (Dict Value)) (c : Course) : Prop where
  store : c.state.store.Builtin
  frame : ∃ frame, c.state.scope.inner = frame :: base ∧ ∀ length index item,
    roundFrame var length index item frame = roundFrame var length index item []

/-- A loop begins in a frame of its own. -/
theorem Course.fresh_start {s : Rendering} (hs : s.store.Builtin) :
    Course.Fresh var s.scope.inner ⟨"", s.withScope (Scope.push · []), .runs⟩ :=
  ⟨hs, [], rfl, fun _ _ _ => rfl⟩

/-- In a round, the frame of the loop holds the variables of the round and no others. -/
theorem Course.Fresh.inner_roundState {c : Course} (h : c.Fresh var base) :
    (roundState var length index item c.state).scope.inner =
      roundFrame var length index item [] :: base := by
  obtain ⟨frame, hframe, hfresh⟩ := h.frame
  rw [Loop.inner_roundState hframe, hfresh]

/-- A body that keeps the frames around it leaves the frame of the loop as it was bound. -/
theorem Course.Fresh.round {c : Course} (h : c.Fresh var base) (hruns : c.stage = .runs)
    (hbody : ∀ u, Render.Keeps (fun _ => True) u body) (length : Nat) (item : Value × Nat) :
    (c.round var length body item).Fresh var base := by
  have hinner : (roundState var length item.2 item.1 c.state).scope.inner =
      roundFrame var length item.2 item.1 [] :: base := h.inner_roundState
  have hkept := hbody (roundState var length item.2 item.1 c.state) h.store
  rw [← state_round hruns] at hkept
  exact ⟨hkept.store, _, hkept.scope.inner.trans hinner, fun length' index' item' =>
    roundFrame_roundFrame var length length' item.2 index' item.1 item'⟩

/-- Behind any items, the loop is still in its own frame. -/
theorem Course.fresh_behind (hbody : ∀ u, Render.Keeps (fun _ => True) u body) {c : Course}
    (h : c.Fresh var base) (items : List (Value × Nat))
    (hruns : (c.behind var length body items).stage = .runs) :
    (c.behind var length body items).Fresh var base := by
  induction items generalizing c with
  | nil => exact h
  | cons item rest ih =>
    have hround : (c.round var length body item).stage = .runs := stage_of_behind hruns
    exact ih (h.round (stage_of_round hround) hbody length item) hruns

end Frames

/-- What `forloop` tells, with exact differences: no counter goes below what it counts. -/
theorem state_eq {index length : Nat} (h : index < length) : state index length = .ofFields
    [("index", .ofInt (index + 1)), ("index0", .ofInt index), ("rindex", .ofInt (length - index)),
      ("rindex0", .ofInt (length - index - 1)), ("first", .bool (decide (index = 0))),
      ("last", .bool (decide (index + 1 = length))), ("length", .ofInt length)] := by
  have hleft : ((length - index : Nat) : Int) = length - index := Int.ofNat_sub h.le
  have hless : ((length - index - 1 : Nat) : Int) = length - index - 1 := by omega
  unfold state Value.ofNat Value.ofInt
  rw [hleft, hless]
  rfl

section Tags

variable {setup : Setup} {filters : Filters} {n : Nat} {bodies : List (List Node)} {s : Rendering}

/-- An error of a body of a tag has a place. -/
theorem hasPlace_bodyAt (i : Nat) (s : Rendering) : Fails Error.HasPlace
    ((Render.bodyAt (Node.renderBodies filters (fetch setup filters n) bodies) i).run.run s).1 := by
  rw [Node.bodyAt_renderBodies_getD]
  exact Node.hasPlace_renderAll _ s

/-- A loop that visits items fails with an error that has a place. -/
theorem hasPlace_render {l : Loop} {items : List Value} {s₁ : Rendering}
    (hvisited : l.visited.run.run s = (.ok items, s₁)) : Fails Error.HasPlace
      ((l.render (Node.renderBodies filters (fetch setup filters n) bodies)).run.run s).1 := by
  rw [render_eq, run_bind, hvisited]
  dsimp only
  split
  · exact hasPlace_bodyAt 1 s₁
  · have hrounds : Fails Error.HasPlace ((rounds l.var items.length (Render.bodyAt
        (Node.renderBodies filters (fetch setup filters n) bodies) 0) 0 items).run.run
          (s₁.withScope (Scope.push · []))).1 := Starts.fails fun u _ => hasPlace_bodyAt 0 u
    exact hrounds

/-- The course of the loop of a tag behind some of its rounds; each of them renders the body of the
tag. -/
def course (setup : Setup) (filters : Filters) (n : Nat) (l : Loop) (bodies : List (List Node))
    (length : Nat) (s : Rendering) (items : List (Value × Nat)) : Course :=
  Course.behind l.var length (renderIn setup filters (n + 1) (bodies.headD []))
    ⟨"", s.withScope (Scope.push · []), .runs⟩ items

/-- What the tag of a loop renders, given the values of its operands. -/
structure IsFold (setup : Setup) (filters : Filters) (n : Nat) (l : Loop)
    (bodies : List (List Node)) (token : Token) (s : Rendering) (v : Value)
    (offset limit : Option Number) : Prop where
  /-- Counts are exact whole parts up to `2 ^ 53`, and no less than that for greater numbers. -/
  counts : ∀ k : Number, min (countOf k) (2 ^ 53) = min k.whole (2 ^ 53)
  /-- So they select what exact counts select of any list up to that length. -/
  exact : v.items.length ≤ 2 ^ 53 →
    l.selected countOf v offset limit = l.selected Number.whole v offset limit
  /-- Without items, the second body is rendered in the same state. -/
  otherwise : l.selected countOf v offset limit = [] → ∀ body, bodies[1]? = some body →
    ((Node.tag (.loop l) bodies token).render filters (fetch setup filters n)).run.run s =
      (renderIn setup filters (n + 1) body).run.run s
  /-- Without items and a second body, nothing is rendered. -/
  nothing : l.selected countOf v offset limit = [] → bodies[1]? = none →
    ((Node.tag (.loop l) bodies token).render filters (fetch setup filters n)).run.run s =
      (.ok "", s)
  /-- With items, the rounds are folded within one frame. -/
  fold : ∀ items, l.selected countOf v offset limit = items → items ≠ [] →
    ((Node.tag (.loop l) bodies token).render filters (fetch setup filters n)).run.run s =
      ((course setup filters n l bodies items.length s items.zipIdx).outcome,
        (course setup filters n l bodies items.length s items.zipIdx).state.withScope Scope.pop)
  /-- With built-in tags in the body, that frame binds nothing but the variable of the loop and
  `forloop` when a round begins. -/
  frames : setup.tags = TagKind.builtin → Node.BuiltinInBodies bodies → s.store.Builtin →
    ∀ before item index rest,
      (l.selected countOf v offset limit).zipIdx = before ++ (item, index) :: rest →
      (course setup filters n l bodies (l.selected countOf v offset limit).length s before).stage =
        .runs →
      (roundState l.var (l.selected countOf v offset limit).length index item
        (course setup filters n l bodies (l.selected countOf v offset limit).length s
          before).state).scope.inner =
            roundFrame l.var (l.selected countOf v offset limit).length index item [] ::
              s.scope.inner
  /-- What `forloop` tells, with exact differences. -/
  counters : ∀ index length : Nat, index < length → state index length = .ofFields
    [("index", .ofInt (index + 1)), ("index0", .ofInt index), ("rindex", .ofInt (length - index)),
      ("rindex0", .ofInt (length - index - 1)), ("first", .bool (decide (index = 0))),
      ("last", .bool (decide (index + 1 = length))), ("length", .ofInt length)]

/-- The tag of a loop whose collection, offset and limit have values is the fold of its rounds over
the items that they select. -/
theorem tag_isFold (setup : Setup) (filters : Filters) (n : Nat) (l : Loop)
    (bodies : List (List Node)) (token : Token) {s : Rendering} {v : Value}
    {offset limit : Option Number} (hcollection : l.collection.eval s.scope = .ok v)
    (hoffset : Counted s.scope l.offset offset) (hlimit : Counted s.scope l.limit limit) :
    IsFold setup filters n l bodies token s v offset limit := by
  have hvisited := run_visited_eq hcollection hoffset hlimit
  -- what goes wrong in a round has a place, so that the tag adds none
  have htag : ((Node.tag (.loop l) bodies token).render filters (fetch setup filters n)).run.run s =
      (l.render (Node.renderBodies filters (fetch setup filters n) bodies)).run.run s :=
    Render.run_located_of_hasPlace (hasPlace_render hvisited) token.position
  have hempty (h : l.selected countOf v offset limit = []) :
      ((Node.tag (.loop l) bodies token).render filters (fetch setup filters n)).run.run s =
        (Render.bodyAt (Node.renderBodies filters (fetch setup filters n) bodies) 1).run.run s := by
    rw [htag, render_eq, run_bind, hvisited, h]
    rfl
  refine ⟨Number.min_truncateUnsigned, fun h => l.selected_eq_selected_whole h offset limit,
    fun h body hbody => ?_, fun h hbody => ?_, ?_, ?_, fun _ _ => state_eq⟩
  · rw [hempty h, Node.bodyAt_renderBodies hbody]
  · rw [hempty h, Node.bodyAt_renderBodies_getD, hbody]
    rfl
  · rintro items rfl hitems
    have hnonempty : ¬ (l.selected countOf v offset limit).isEmpty = true := by
      rw [List.isEmpty_iff]
      exact hitems
    rw [htag, render_eq, run_bind, hvisited]
    dsimp only
    rw [if_neg hnonempty, Node.bodyAt_renderBodies_zero]
    exact congrArg (Prod.map id (Rendering.withScope · Scope.pop)) (Course.outcome_start _ _).symm
  · intro htags hbodies hstore before item index rest hsplit hruns
    have hbody : Node.BuiltinAll (bodies.headD []) := by
      cases bodies with
      | nil => trivial
      | cons body others => exact hbodies.1
    have hkeeps (u : Rendering) : Render.Keeps (fun _ => True) u
        (renderIn setup filters (n + 1) (bodies.headD [])) :=
      keeps_builtinAll htags n hbody u
    exact (Course.fresh_behind hkeeps (Course.fresh_start hstore) before hruns).inner_roundState

end Tags

/-- A loop over two of the letters from the second one on, in reverse. -/
def letters : Loop where
  var := "x"
  collection := .literal (.array [.string "a", .string "b", .string "c", .string "d"])
  reversed := true
  limit := some (.literal (.number (.int 2)))
  offset := some (.literal (.number (.int 1)))

/-- The token of all nodes of the body of that loop. -/
def letterToken : Token :=
  .literal "" {}

/-- A body that shows a letter and a counter, and continues before it shows the letter again. -/
def letterBody : List Node :=
  [.output ⟨"", .path (.var "x"), []⟩ letterToken,
    .output ⟨"", .path (.field (.var "forloop") "rindex0"), []⟩ letterToken,
    .tag (.signal .continue) [] letterToken,
    .output ⟨"", .path (.var "x"), []⟩ letterToken]

/-- A loop in reverse with an offset and a limit renders the letters that are left. -/
theorem tag_isFold_letters : ∃ (s : Rendering) (v : Value) (offset limit : Option Number),
    letters.collection.eval s.scope = .ok v ∧ Counted s.scope letters.offset offset ∧
      Counted s.scope letters.limit limit ∧
      (letters.selected countOf v offset limit).map Value.text = ["c", "b"] ∧
      (course {} ⟨[], false⟩ 0 letters [letterBody] 2 s
        (letters.selected countOf v offset limit).zipIdx).outcome.toOption = some "c1b0" ∧
      IsFold {} ⟨[], false⟩ 0 letters [letterBody] letterToken s v offset limit := by
  have hcollection : letters.collection.eval (Scope.mk [] [] [] false) =
      .ok (.array [.string "a", .string "b", .string "c", .string "d"]) := by
    show (Operand.literal _).eval _ = _
    rw [Operand.eval]
  have hoffset : Counted (Scope.mk [] [] [] false) letters.offset (some (.int 1)) := by
    apply Counted.number
    rw [Operand.eval]
  have hlimit : Counted (Scope.mk [] [] [] false) letters.limit (some (.int 2)) := by
    apply Counted.number
    rw [Operand.eval]
  refine ⟨⟨⟨[], [], [], false⟩, {}⟩, _, _, _, hcollection, hoffset, hlimit, ?_, ?_,
    tag_isFold {} ⟨[], false⟩ 0 letters [letterBody] letterToken hcollection hoffset hlimit⟩
  · decide +kernel
  · decide +kernel

end Loop

end Stencil
