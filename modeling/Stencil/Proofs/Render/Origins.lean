import Stencil.Proofs.Layout.Ascent
import Stencil.Proofs.Render.Frames
import Stencil.Proofs.Render.Signals

/-!
# Where the faults of a rendering come from

A node whose own expression has no value fails with a fault that tells no place (`Node.Raises`),
and gives it the place of its token.  From there on the fault has a place, which nothing around
the node changes: whatever leads to the point at which the node stands fails with the same error
(`Leads.run_of_fault`).  The other way round, no template of built-in tags fails to be read with a
fault of an expression (`Setup.ofLoading_getTemplate`), so such a fault is traced back from a tag to
one of its own expressions, to a body that it enters or to the template that it includes
(`Head.origin`), and by induction to the node that raised it (`tracesIn`).
-/

set_option autoImplicit false

namespace Stencil

open Template (fetch inclusionBound renderIn)

section Reading

/-- An error of finding or reading a template. -/
def Error.OfLoading : Error → Prop
  | tokenization _ _ => True
  | parse _ _ _ => True
  | assertion _ => True
  | notFound _ => True
  | tooDeep => True
  | _ => False

/-- An error of reading comes from loading a template. -/
theorem Error.IsPlaced.ofLoading {e : Error} (h : e.IsPlaced) : e.OfLoading := by
  cases e with
  | tokenization | parse => trivial
  | _ => exact h.elim

/-- An error within a level comes from loading a template. -/
theorem Error.OfLevel.ofLoading {e : Error} (h : e.OfLevel) : e.OfLoading := by
  obtain h | rfl := h
  · exact h.ofLoading
  · trivial

variable {setup : Setup} (htags : setup.tags = TagKind.builtin)

include htags

/-- A chain that cannot be followed is an error of loading. -/
theorem ofLoading_levels (seen : List String) (tokens : List Token) :
    Fails Error.OfLoading (levels setup seen tokens).1 := by
  obtain ⟨names, below, last, r, more, hascent, hnew, hdisjoint, hlast⟩ :=
    exists_ascent setup seen tokens
  rw [hascent.levels_eq hnew hdisjoint hlast]
  cases hlast with
  | root => exact .ok _
  | refused htake =>
    have hextends : Dict.find? "extends" setup.tags = some .layout := by
      rw [htags]
      rfl
    exact .error (places_takeExtends hextends _ _ htake).ofLoading
  | circle => exact .error trivial
  | missing => exact .error trivial
  | undelimited _ _ _ htokens => exact .error (places_tokenize _ _ _ htokens).ofLoading

/-- A source that cannot be read is an error of loading. -/
theorem Template.ofLoading_parse (name : Option String) (source : String) :
    Fails Error.OfLoading (Template.parse setup name source).1 := by
  unfold Template.parse
  split
  · next e htokens => exact .error (places_tokenize _ _ _ htokens).ofLoading
  · next tokens _ =>
    have hlevels : Fails Error.OfLoading (levels setup (setup.ownName name) tokens).1 :=
      ofLoading_levels htags _ tokens
    have hfree : WithoutFactories setup.tags := by
      rw [htags]
      exact withoutFactories_builtin
    exact hlevels.bind fun chain =>
      (ofLevel_ofLevels hfree chain).imp fun _ => Error.OfLevel.ofLoading

namespace Setup

/-- A template that cannot be loaded is an error of loading. -/
theorem ofLoading_load (name : String) (s : Store) :
    Fails Error.OfLoading ((setup.load name).run.run s).1 := by
  refine fails_run_bind (.ok ()) fun _ s₁ _ => ?_
  have hsource : Fails Error.OfLoading (setup.source name) := by
    unfold source
    split
    · exact .ok _
    · exact .error trivial
  refine fails_run_bind hsource fun source s₂ _ => ?_
  have hparse : Fails Error.OfLoading ((setup.parse (some name) source).run.run s₂).1 :=
    fails_run_bind (.ok ()) fun _ _ _ => Template.ofLoading_parse htags (some name) source
  exact fails_run_bind hparse fun t s₃ _ => .ok _

/-- A template that cannot be got is an error of loading. -/
theorem ofLoading_getTemplate (name : String) (s : Store) :
    Fails Error.OfLoading ((setup.getTemplate name).run.run s).1 := by
  unfold getTemplate
  dsimp only
  split
  · refine fails_run_bind (.ok s) fun s₁ _ _ => ?_
    split
    · exact .ok _
    · exact fails_run_bind (ofLoading_load htags _ _) fun issued s₂ _ => .ok _
  · exact ofLoading_load htags _ s

end Setup

end Reading

section Places

/-- An error that has a place, if errors of its kind have places. -/
def Error.HasPlace : Error → Prop
  | render _ none => False
  | parse _ _ none => False
  | _ => True

/-- An error that gets a place has one. -/
theorem Error.hasPlace_orAt (e : Error) (p : Position) : (e.orAt p).HasPlace := by
  cases e with
  | render fault q => cases q <;> trivial
  | parse fault near q => cases q <;> trivial
  | _ => trivial

/-- An error with a place keeps it. -/
theorem Error.HasPlace.orAt_eq {e : Error} (h : e.HasPlace) (p : Position) : e.orAt p = e := by
  cases e with
  | render fault q =>
    cases q with
    | none => exact h.elim
    | some q => rfl
  | parse fault near q =>
    cases q with
    | none => exact h.elim
    | some q => rfl
  | _ => rfl

namespace Render

/-- What holds of the errors of an action when they get a place holds of those with the place. -/
theorem fails_located {α : Type} {q : Error → Prop} {p : Position} {action : Render α}
    {s : Rendering} (h : Fails (fun e => q (e.orAt p)) (action.run.run s).1) :
    Fails q ((located p action).run.run s).1 := by
  rw [run_located]
  cases hr : (action.run.run s).1 with
  | ok x => exact .ok x
  | error e => exact .error (h e hr)

/-- An error that has a place keeps it. -/
theorem run_located_of_hasPlace {α : Type} {action : Render α} {s : Rendering}
    (h : Fails Error.HasPlace (action.run.run s).1) (p : Position) :
    (located p action).run.run s = action.run.run s := by
  rw [run_located]
  generalize action.run.run s = outcome at h ⊢
  obtain ⟨r, u⟩ := outcome
  cases r with
  | ok x => rfl
  | error e =>
    show (Except.error (e.orAt p), u) = _
    rw [(h e rfl).orAt_eq]

/-- A text in front of what is rendered changes the text of a signal at most. -/
theorem of_afterOutcome_eq_error {text : String} {r : Except Error String} {e : Error}
    (h : afterOutcome text r = .error e) (he : e.IsFault) : r = .error e := by
  unfold afterOutcome at h
  split at h <;> cases h
  · exact he.elim
  · rfl

end Render

variable {filters : Filters} {fetch : String → Render (Render String)}

/-- An error of rendering a node has a place. -/
theorem Node.hasPlace_render (node : Node) (s : Rendering) :
    Fails Error.HasPlace ((node.render filters fetch).run.run s).1 := by
  cases node with
  | literal t => exact .ok t.value
  | output o t => exact Render.fails_located fun e _ => e.hasPlace_orAt t.position
  | tag head bodies t => exact Render.fails_located fun e _ => e.hasPlace_orAt t.position

/-- An error of rendering nodes has a place. -/
theorem Node.hasPlace_renderAll (nodes : List Node) (s : Rendering) :
    Fails Error.HasPlace ((renderAll filters fetch nodes).run.run s).1 := by
  induction nodes generalizing s with
  | nil => exact .ok ""
  | cons node rest ih =>
    refine fails_run_bind (node.hasPlace_render s) fun text s' _ => ?_
    rw [Render.run_after]
    intro e he
    cases e with
    | interrupt => trivial
    | _ => exact ih s' _ (Render.of_afterOutcome_eq_error he trivial)

/-- Every error that leaves the nodes of a template has a place. -/
theorem Point.hasPlace_run (setup : Setup) (filters : Filters) (p : Point) :
    Fails Error.HasPlace (p.run setup filters).1 := by
  obtain ⟨t, n, nodes, s⟩ := p
  cases n with
  | zero => exact .error trivial
  | succ n => exact Node.hasPlace_renderAll nodes s

end Places

section Faults

variable {setup : Setup} {filters : Filters} {p q : Point} {e : Error}

/-- A fault of a body is the outcome of its tag, also in a round of a loop. -/
theorem Head.Enters.run_of_fault {filters : Filters} {fetch : String → Render (Render String)}
    {head : Head} {bodies : List (Render String)} {i : Nat} {s s' : Rendering}
    (h : head.Enters bodies s i s') (he : e.IsFault)
    (hrun : ((Render.bodyAt bodies i).run.run s').1 = .error e) :
    ((head.render filters fetch bodies).run.run s).1 = .error e := by
  by_cases honce : head.Repeats i
  · cases h with
    | @round l items s₁ _ hvisited hstart =>
      have hrounds := hstart.run_rounds_of_fault (Prod.ext hrun rfl) he
      have hnonempty : ¬ items.isEmpty = true := by
        cases hstart <;> exact Bool.false_ne_true
      show ((l.render bodies).run.run s).1 = _
      rw [Loop.render_eq, run_bind, hvisited]
      dsimp only
      rw [if_neg hnonempty]
      exact congrArg Prod.fst hrounds
    | _ => exact honce.elim
  · rw [h.run_of_error honce (Prod.ext hrun rfl)]

/-- A fault at a point is the outcome at every point that leads to it. -/
theorem Leads.run_of_fault (h : Leads setup filters p q) (he : e.IsFault)
    (hq : (q.run setup filters).1 = .error e) : (p.run setup filters).1 = .error e := by
  have hplace : e.HasPlace := q.hasPlace_run setup filters e hq
  cases h with
  | next hrun =>
    rw [Point.run_cons_of_ok hrun, hq]
    cases e with
    | interrupt => exact he.elim
    | _ => rfl
  | @body t n i head bodies token rest body s s' henters hbody =>
    rw [Point.run, ← Node.bodyAt_renderBodies hbody] at hq
    have htag : ((head.render filters (fetch setup filters n)
        (Node.renderBodies filters (fetch setup filters n) bodies)).run.run s).1 = .error e :=
      henters.run_of_fault he hq
    rw [Point.run_tag_of_error (Prod.ext htag rfl), hplace.orAt_eq]
  | @inclusion t n name params bodies token rest s s₁ s₂ v issued frame hname hload hframe =>
    rw [Point.run_of_inclusion hname hload hframe (Prod.ext hq rfl), hplace.orAt_eq]

/-- An error at a point that a rendering comes to is the error of the rendering. -/
theorem run_of_reflTransGen (h : Relation.ReflTransGen (Leads setup filters) p q) (he : e.IsFault)
    (hq : (q.run setup filters).1 = .error e) : (p.run setup filters).1 = .error e := by
  induction h with
  | refl => exact hq
  | tail _ hstep ih => exact ih (hstep.run_of_fault he hq)

end Faults

/-- A tag with some bodies that is rendered in a state evaluates an expression of its own, which
fails with an error. -/
inductive Head.Raises (setup : Setup) (filters : Filters) (bodies : List (List Node))
    (s : Rendering) : Head → Error → Prop
  | assign {name : String} {value : Output} {e : Error}
      (h : value.eval filters s.scope = .error e) :
      Raises setup filters bodies s (.assign name value) e
  /-- A condition is evaluated if those before it do not hold, and if it has a body. -/
  | conditional {before after : List Condition} {c : Condition} {e : Error}
      (hbefore : ∀ b ∈ before, b.eval s.scope = .ok false) (hbody : before.length < bodies.length)
      (h : c.eval s.scope = .error e) :
      Raises setup filters bodies s (.conditional (before ++ c :: after)) e
  | negated {c : Condition} {e : Error} (h : c.eval s.scope = .error e) :
      Raises setup filters bodies s (.negated c) e
  | collection {l : Loop} {e : Error} (h : l.collection.eval s.scope = .error e) :
      Raises setup filters bodies s (.loop l) e
  | offset {l : Loop} {v : Value} {e : Error} (hcollection : l.collection.eval s.scope = .ok v)
      (h : ((Loop.count l.offset).run.run s).1 = .error e) :
      Raises setup filters bodies s (.loop l) e
  | limit {l : Loop} {v : Value} {n : Option Nat} {e : Error}
      (hcollection : l.collection.eval s.scope = .ok v)
      (hoffset : ((Loop.count l.offset).run.run s).1 = .ok n)
      (h : ((Loop.count l.limit).run.run s).1 = .error e) :
      Raises setup filters bodies s (.loop l) e
  | name {name : Operand} {params : List (String × Operand)} {e : Error}
      (h : name.eval s.scope = .error e) :
      Raises setup filters bodies s (.inclusion name params) e
  /-- The parameters are evaluated once the template is loaded. -/
  | param {name : Operand} {params : List (String × Operand)} {v : Value} {issued : Issued}
      {s₁ : Rendering} {e : Error} (hname : name.eval s.scope = .ok v)
      (hload : (Render.load (setup.getTemplate v.text)).run.run s = (.ok issued, s₁))
      (h : ((paramFrame params).run.run s₁).1 = .error e) :
      Raises setup filters bodies s (.inclusion name params) e

/-- A node that is rendered in a state evaluates an expression of its own, which fails. -/
inductive Node.Raises (setup : Setup) (filters : Filters) (s : Rendering) : Node → Error → Prop
  | output {o : Output} {token : Token} {e : Error} (h : o.eval filters s.scope = .error e) :
      Raises setup filters s (.output o token) e
  | tag {head : Head} {bodies : List (List Node)} {token : Token} {e : Error}
      (h : head.Raises setup filters bodies s e) : Raises setup filters s (.tag head bodies token) e

section Heads

open Render

variable {setup : Setup} {filters : Filters} {n : Nat} {bodies : List (List Node)} {s : Rendering}
  {e : Error}

/-- An evaluation that fails ends the sequence. -/
theorem Render.run_eval_bind_of_error {α β : Type} {f : Scope → Except Error α}
    (h : f s.scope = .error e) (g : α → Render β) :
    ((eval f >>= g).run.run s).1 = .error e := by
  rw [run_bind, run_eval, h]

/-- A condition that fails behind ones that do not hold is the error of the tag. -/
theorem Render.run_firstHolding_of_error {before after : List Condition} {c : Condition}
    {actions : List (Render String)} (hbefore : ∀ b ∈ before, b.eval s.scope = .ok false)
    (hbody : before.length < actions.length) (h : c.eval s.scope = .error e) :
    (firstHolding (before ++ c :: after) actions).run.run s = (.error e, s) := by
  induction before generalizing actions with
  | nil =>
    obtain ⟨action, actions, rfl⟩ := List.exists_cons_of_length_pos hbody
    rw [List.nil_append, firstHolding, run_bind, run_eval, h]
  | cons b before ih =>
    obtain ⟨hb, hbefore⟩ := List.forall_mem_cons.1 hbefore
    obtain ⟨action, actions, rfl⟩ := List.exists_cons_of_length_pos (Nat.zero_lt_of_lt hbody)
    rw [List.cons_append, firstHolding, run_bind, run_eval, hb]
    exact ih hbefore (Nat.lt_of_succ_lt_succ hbody)

namespace Loop

/-- The count of a loop changes nothing. -/
theorem state_count (operand : Option Operand) (s : Rendering) :
    ((count operand).run.run s).2 = s := by
  cases operand with
  | none => rfl
  | some o =>
    rw [count, run_bind, run_eval]
    cases o.eval s.scope with
    | error e => rfl
    | ok v => cases v <;> rfl

/-- The items of a loop are those of its collection, counted by its offset and its limit. -/
theorem run_visited (l : Loop) (s : Rendering) :
    l.visited.run.run s = (do
      let v ← l.collection.eval s.scope
      let offset ← ((count l.offset).run.run s).1
      let limit ← ((count l.limit).run.run s).1
      return select v.items (offset.getD 0) limit l.reversed, s) := by
  have hcount (operand : Option Operand) :
      (count operand).run.run s = (((count operand).run.run s).1, s) :=
    Prod.ext rfl (state_count operand s)
  rw [visited, run_bind, run_eval]
  cases l.collection.eval s.scope with
  | error e => rfl
  | ok v =>
    dsimp only
    rw [run_bind, hcount l.offset]
    cases ((count l.offset).run.run s).1 with
    | error e => rfl
    | ok offset =>
      dsimp only
      rw [run_bind, hcount l.limit]
      cases ((count l.limit).run.run s).1 <;> rfl

end Loop

/-- What goes wrong before the first round of a loop goes wrong in an expression of the loop. -/
theorem Head.Raises.of_visited {l : Loop} (h : (l.visited.run.run s).1 = .error e) :
    (Head.loop l).Raises setup filters bodies s e := by
  rw [Loop.run_visited] at h
  dsimp only at h
  cases hcollection : l.collection.eval s.scope with
  | error e' =>
    rw [hcollection] at h
    cases h
    exact .collection hcollection
  | ok v =>
    cases hoffset : ((Loop.count l.offset).run.run s).1 with
    | error e' =>
      rw [hcollection, hoffset] at h
      cases h
      exact .offset hcollection hoffset
    | ok offset =>
      cases hlimit : ((Loop.count l.limit).run.run s).1 with
      | error e' =>
        rw [hcollection, hoffset, hlimit] at h
        cases h
        exact .limit hcollection hoffset hlimit
      | ok limit =>
        rw [hcollection, hoffset, hlimit] at h
        cases h

/-- A tag whose own expression fails fails. -/
theorem Head.Raises.run {head : Head} (h : head.Raises setup filters bodies s e) :
    ((head.render filters (fetch setup filters n)
      (Node.renderBodies filters (fetch setup filters n) bodies)).run.run s).1 = .error e := by
  have loops {l : Loop} (hvisited : (l.visited.run.run s).1 = .error e) :
      ((l.render (Node.renderBodies filters (fetch setup filters n) bodies)).run.run s).1 =
        .error e := by
    rw [Loop.render_eq, run_bind_of_error (Prod.ext hvisited rfl)]
  cases h with
  | assign h => exact run_eval_bind_of_error h _
  | conditional hbefore hbody h =>
    refine congrArg Prod.fst (run_firstHolding_of_error hbefore ?_ h)
    rw [Node.renderBodies_eq_map, List.length_map]
    exact hbody
  | negated h => exact run_eval_bind_of_error h _
  | collection h =>
    apply loops
    rw [Loop.run_visited, h]
    rfl
  | offset hcollection h =>
    apply loops
    rw [Loop.run_visited, hcollection, h]
    rfl
  | limit hcollection hoffset h =>
    apply loops
    rw [Loop.run_visited, hcollection, hoffset, h]
    rfl
  | name h => exact run_eval_bind_of_error h _
  | @param name params v issued s₁ _ hname hload h =>
    show ((eval name.eval >>= _).run.run s).1 = _
    rw [run_bind, run_eval, hname]
    simp only [fetch, bind_assoc, pure_bind]
    rw [run_bind, hload]
    exact congrArg Prod.fst (run_bind_of_error (Prod.ext h rfl) _)

/-- Where an error of a tag comes from: an expression of its own, a body that it enters, the
template that it includes or the loading of it; or else the tag raises a signal. -/
inductive Head.Origin (setup : Setup) (filters : Filters) (n : Nat) (bodies : List (List Node))
    (s : Rendering) : Head → Error → Prop
  | own {head : Head} {e : Error} (h : head.Raises setup filters bodies s e) :
      Origin setup filters n bodies s head e
  | body {head : Head} {i : Nat} {body : List Node} {s' : Rendering} {e : Error}
      (henters : head.Enters (Node.renderBodies filters (fetch setup filters n) bodies) s i s')
      (hbody : bodies[i]? = some body)
      (h : ((renderIn setup filters (n + 1) body).run.run s').1 = .error e) :
      Origin setup filters n bodies s head e
  | inclusion {name : Operand} {params : List (String × Operand)} {v : Value} {issued : Issued}
      {frame : Dict Value} {s₁ s₂ : Rendering} {e : Error} (hname : name.eval s.scope = .ok v)
      (hload : (load (setup.getTemplate v.text)).run.run s = (.ok issued, s₁))
      (hframe : (paramFrame params).run.run s₁ = (.ok frame, s₂))
      (h : ((renderIn setup filters n issued.template.nodes).run.run
        (s₂.withScope (Scope.push · frame))).1 = .error e) :
      Origin setup filters n bodies s (.inclusion name params) e
  | loading {name : Operand} {params : List (String × Operand)} {e : Error} (h : e.OfLoading) :
      Origin setup filters n bodies s (.inclusion name params) e
  | signal {control : LoopControl} :
      Origin setup filters n bodies s (.signal control) (.interrupt control "")

/-- An error of a body that is entered. -/
theorem Head.Enters.origin {head : Head} {i : Nat} {s' : Rendering}
    (h : head.Enters (Node.renderBodies filters (fetch setup filters n) bodies) s i s') :
    Fails (head.Origin setup filters n bodies s)
      ((bodyAt (Node.renderBodies filters (fetch setup filters n) bodies) i).run.run s').1 := by
  cases hbody : bodies[i]? with
  | none =>
    rw [Node.bodyAt_renderBodies_getD, hbody]
    exact .ok ""
  | some body =>
    rw [Node.bodyAt_renderBodies hbody]
    intro e he
    exact .body h hbody he

/-- What goes wrong in some conditions goes wrong in the first one that has a body and does not fail
to hold, or in the body that is chosen. -/
theorem origin_firstHolding {p : Error → Prop} {conditions : List Condition}
    {actions : List (Render String)}
    (hraises : ∀ before c after e, conditions = before ++ c :: after →
      (∀ b ∈ before, b.eval s.scope = .ok false) → before.length < actions.length →
        c.eval s.scope = .error e → p e)
    (hbody : ∀ i, Chosen s.scope conditions i → Fails p ((bodyAt actions i).run.run s).1) :
    Fails p ((firstHolding conditions actions).run.run s).1 := by
  induction conditions generalizing actions with
  | nil => exact hbody 0 .otherwise
  | cons c conditions ih =>
    cases actions with
    | nil => exact .ok ""
    | cons action actions =>
      have hfirst : Fails p (c.eval s.scope) := fun e he =>
        hraises [] c conditions e rfl (by simp) (Nat.succ_pos _) he
      refine fails_run_bind hfirst fun holds s' hrun => ?_
      rw [run_eval] at hrun
      obtain ⟨hholds, rfl⟩ := Prod.mk.inj hrun
      cases holds with
      | true => exact hbody 0 (.holds hholds)
      | false =>
        apply ih
        · rintro before c' after e rfl hbefore hlt he
          exact hraises (c :: before) c' after e rfl (List.forall_mem_cons.2 ⟨hholds, hbefore⟩)
            (Nat.succ_lt_succ hlt) he
        · intro i hi
          exact hbody (i + 1) (.fails hholds hi)

/-- What goes wrong in the rounds of a loop goes wrong in a body that they begin. -/
theorem Loop.Starts.fails {p : Error → Prop} {var : String} {length index : Nat}
    {body : Render String} {items : List Value}
    (h : ∀ u, Starts var length body index items s u → Fails p (body.run.run u).1) :
    Fails p ((rounds var length body index items).run.run s).1 := by
  induction items generalizing index s with
  | nil => exact .ok ""
  | cons item rest ih =>
    have hround : Fails p ((round body).run.run (roundState var length index item s)).1 := by
      rw [run_round]
      intro e he
      apply h _ .first
      generalize (body.run.run (roundState var length index item s)).1 = r at he ⊢
      unfold roundOutcome at he
      split at he <;> cases he
      rfl
    refine fails_run_bind (.ok ()) fun _ s₁ hset => ?_
    cases hset
    refine fails_run_bind hround fun r s₂ hrun => ?_
    obtain ⟨text, goesOn⟩ := r
    cases goesOn with
    | false => exact .ok text
    | true => exact fails_run_bind (ih fun u hu => h u (.next hrun hu)) fun more s₃ _ => .ok _

/-- Every error of a built-in tag has an origin. -/
theorem Head.origin (htags : setup.tags = TagKind.builtin) {head : Head} (hbuiltin : head.Builtin) :
    Fails (head.Origin setup filters n bodies s) ((head.render filters (fetch setup filters n)
      (Node.renderBodies filters (fetch setup filters n) bodies)).run.run s).1 := by
  cases head with
  | layout | text => exact .ok _
  | signal control => exact .error .signal
  | assign name value =>
    refine fails_run_bind (fun e he => .own (.assign he)) fun v s₁ _ => ?_
    exact fails_run_bind (.ok ()) fun _ s₂ _ => .ok ""
  | capture name =>
    refine fails_run_bind Enters.capture.origin fun text s₁ _ => ?_
    exact fails_run_bind (.ok ()) fun _ s₂ _ => .ok ""
  | block name =>
    cases hkept : (Dict.find? name (s.scope.registerObject blockRegister)).bind Value.string? with
    | some text =>
      show Fails _ ((Render.block name _).run.run s).1
      rw [run_block_of_text hkept]
      exact .ok text
    | none =>
      show Fails _ ((Render.block name _).run.run s).1
      rw [run_block hkept]
      refine fails_run_bind (Enters.block hkept).origin fun text s₁ _ => ?_
      exact fails_run_bind (.ok ()) fun _ s₂ _ => .ok text
  | conditional conditions =>
    apply origin_firstHolding
    · rintro before c after e rfl hbefore hlt he
      rw [Node.renderBodies_eq_map, List.length_map] at hlt
      exact .own (.conditional hbefore hlt he)
    · intro i hi
      exact (Enters.conditional hi).origin
  | negated c =>
    refine fails_run_bind (fun e he => .own (.negated he)) fun holds s₁ hrun => ?_
    rw [run_eval] at hrun
    obtain ⟨hholds, rfl⟩ := Prod.mk.inj hrun
    cases holds with
    | true => exact (Enters.negated hholds).origin
    | false => exact (Enters.negated hholds).origin
  | loop l =>
    have hvisited : Fails (Head.Origin setup filters n bodies s (.loop l))
        (l.visited.run.run s).1 := fun e he => .own (.of_visited he)
    show Fails _ ((l.render _).run.run s).1
    rw [Loop.render_eq]
    refine fails_run_bind hvisited fun items s₁ hrun => ?_
    cases items with
    | nil => exact (Enters.noItems hrun).origin
    | cons item rest =>
      rw [List.isEmpty_cons, if_neg Bool.false_ne_true]
      have hrounds : Fails (Head.Origin setup filters n bodies s (.loop l)) ((Loop.rounds l.var
          (item :: rest).length _ 0 (item :: rest)).run.run (s₁.withScope (Scope.push · []))).1 :=
        Loop.Starts.fails fun u hu => (Enters.round hrun hu).origin
      exact hrounds
  | inclusion name params =>
    refine fails_run_bind (fun e he => .own (.name he)) fun v s₁ hrun => ?_
    rw [run_eval] at hrun
    obtain ⟨hname, rfl⟩ := Prod.mk.inj hrun
    simp only [fetch, bind_assoc, pure_bind]
    refine fails_run_bind (fun e he => .loading (Setup.ofLoading_getTemplate htags _ _ _ he))
      fun issued s₁ hload => ?_
    refine fails_run_bind (fun e he => .own (.param hname hload he)) fun frame s₂ hframe => ?_
    intro e he
    exact .inclusion hname hload hframe he
  | script | region => exact hbuiltin.elim

end Heads

section Points

variable {setup : Setup} {filters : Filters} {p q : Point} {s : Rendering} {e : Error}

/-- An error of a parameter has no place of its own. -/
theorem unplaced_paramFrame (params : List (String × Operand)) (s : Rendering) :
    Fails Error.IsUnplaced ((paramFrame params).run.run s).1 := by
  unfold paramFrame
  generalize ([] : Dict Value) = frame
  induction params generalizing frame s with
  | nil => exact .ok frame
  | cons p params ih =>
    rw [List.foldlM_cons, bind_assoc]
    exact fails_run_bind (p.2.unplaced_eval s.scope) fun v s₁ _ => ih s₁ _

/-- An expression of a node fails with an error that tells no place. -/
theorem Node.Raises.unplaced {node : Node} (h : node.Raises setup filters s e) :
    e.IsUnplaced := by
  cases h with
  | output h => exact Output.unplaced_eval s.scope filters _ _ h
  | tag h =>
    cases h with
    | assign h => exact Output.unplaced_eval s.scope filters _ _ h
    | conditional _ _ h => exact Condition.unplaced_eval s.scope _ _ h
    | negated h => exact Condition.unplaced_eval s.scope _ _ h
    | collection h => exact Operand.unplaced_eval s.scope _ _ h
    | offset _ h => exact Loop.unplaced_count _ _ _ h
    | limit _ _ h => exact Loop.unplaced_count _ _ _ h
    | name h => exact Operand.unplaced_eval s.scope _ _ h
    | param _ _ h => exact unplaced_paramFrame _ _ _ h

/-- A node whose own expression fails ends the nodes that it stands in, with the error at its place.
-/
theorem Node.Raises.run {node : Node} (h : node.Raises setup filters s e) (t : Template) (n : Nat)
    (rest : List Node) : (Point.run setup filters ⟨t, n + 1, node :: rest, s⟩).1 =
      .error (e.orAt node.token.position) := by
  have hnode : ((node.render filters (fetch setup filters n)).run.run s).1 =
      .error (e.orAt node.token.position) := by
    cases h with
    | @output o token _ h =>
      exact congrArg (Except.mapError (Error.orAt · token.position))
        (Render.run_eval_bind_of_error (f := o.eval filters) h fun v => pure v.text)
    | @tag head bodies token _ h =>
      exact congrArg (Except.mapError (Error.orAt · token.position)) h.run
  exact congrArg Prod.fst (run_bind_of_error (Prod.ext hnode rfl) _)

/-- The rendering of a point comes to a node that has an error for an expression of its own, and an
error is this one with the place of the node. -/
def Point.Traces (setup : Setup) (filters : Filters) (p : Point) (e : Error) : Prop :=
  ∃ t n node rest s raised,
    Relation.ReflTransGen (Leads setup filters) p ⟨t, n + 1, node :: rest, s⟩ ∧
      node.Raises setup filters s raised ∧ e = raised.orAt node.token.position

/-- An error that is traced from a point that a point leads to is traced from this one. -/
theorem Leads.traces (h : Leads setup filters p q) (hq : q.Traces setup filters e) :
    p.Traces setup filters e := by
  obtain ⟨t, n, node, rest, s, raised, hreach, hraises, he⟩ := hq
  exact ⟨t, n, node, rest, s, raised, .head h hreach, hraises, he⟩

/-- The nodes at a point, and the templates that are kept there, have built-in tags only. -/
structure Point.Builtin (p : Point) : Prop where
  nodes : Node.BuiltinAll p.nodes
  store : p.state.store.Builtin

/-- A point with the tags of every engine leads to such points. -/
theorem Leads.builtin (htags : setup.tags = TagKind.builtin) (h : Leads setup filters p q)
    (hp : p.Builtin) : q.Builtin := by
  obtain ⟨names, hframed⟩ := exists_framed (.single h)
  obtain ⟨hnodes, hs⟩ := hframed.surrounded htags hp.nodes hp.store
  exact ⟨hnodes, hs.store⟩

/-- An error of an expression. -/
def Error.IsRender : Error → Prop
  | render _ _ => True
  | _ => False

/-- An error of rendering is no signal. -/
theorem Error.IsRender.isFault {e : Error} (h : e.IsRender) : e.IsFault := by
  cases e with
  | render => trivial
  | _ => exact h.elim

/-- Where templates may include each other `n` deep, every error of an expression is traced back to
the node that raised it. -/
def TracesIn (setup : Setup) (filters : Filters) (n : Nat) : Prop :=
  ∀ (t : Template) (nodes : List Node) (s : Rendering), Point.Builtin ⟨t, n, nodes, s⟩ →
    Fails (fun e => e.IsRender → Point.Traces setup filters ⟨t, n, nodes, s⟩ e)
      (Point.run setup filters ⟨t, n, nodes, s⟩).1

mutual

/-- An error of rendering a node is traced to the node whose own expression failed, by induction on
the node. -/
theorem Node.traces (htags : setup.tags = TagKind.builtin) {n : Nat}
    (hn : TracesIn setup filters n) {t : Template} {node : Node} {rest : List Node} {s : Rendering}
    (hp : Point.Builtin ⟨t, n + 1, node :: rest, s⟩) :
    Fails (fun e => e.IsRender → Point.Traces setup filters ⟨t, n + 1, node :: rest, s⟩ e)
      ((node.render filters (fetch setup filters n)).run.run s).1 := by
  cases node with
  | literal token => exact .ok _
  | output o token =>
    apply Render.fails_located
    refine fails_run_bind (fun e he _ => ?_) fun v s' _ => .ok _
    exact ⟨t, n, .output o token, rest, s, e, .refl, .output he, rfl⟩
  | tag head bodies token =>
    apply Render.fails_located
    intro e he hrender
    cases Head.origin htags hp.nodes.1.1 e he with
    | own h => exact ⟨t, n, .tag head bodies token, rest, s, e, .refl, .tag h, rfl⟩
    | @body _ i body s' _ henters hbody h =>
      have hstep : Leads setup filters ⟨t, n + 1, .tag head bodies token :: rest, s⟩
          ⟨t, n + 1, body, s'⟩ := .body henters hbody
      have hplace : e.HasPlace := Node.hasPlace_renderAll body s' e h
      rw [hplace.orAt_eq] at hrender ⊢
      exact hstep.traces (Node.traces_bodies htags hn hbody (hstep.builtin htags hp) e h hrender)
    | @inclusion name params v issued frame s₁ s₂ _ hname hload hframe h =>
      cases n with
      | zero =>
        cases h
        exact hrender.elim
      | succ n =>
        have hstep : Leads setup filters
            ⟨t, n + 2, .tag (.inclusion name params) bodies token :: rest, s⟩
            ⟨issued.template, n + 1, issued.template.nodes, s₂.withScope (Scope.push · frame)⟩ :=
          .inclusion hname hload hframe
        have hplace : e.HasPlace := Node.hasPlace_renderAll _ _ e h
        rw [hplace.orAt_eq] at hrender ⊢
        exact hstep.traces (hn _ _ _ (hstep.builtin htags hp) e h hrender)
    | loading h =>
      cases e with
      | render | filter | interrupt | registration => exact h.elim
      | parse fault near q => cases q <;> exact hrender.elim
      | _ => exact hrender.elim
    | signal => exact hrender.elim

/-- An error of rendering nodes is traced, by induction on the nodes. -/
theorem Node.traces_nodes (htags : setup.tags = TagKind.builtin) {n : Nat}
    (hn : TracesIn setup filters n) {t : Template} {nodes : List Node} {s : Rendering}
    (hp : Point.Builtin ⟨t, n + 1, nodes, s⟩) :
    Fails (fun e => e.IsRender → Point.Traces setup filters ⟨t, n + 1, nodes, s⟩ e)
      ((renderAll filters (fetch setup filters n) nodes).run.run s).1 := by
  cases nodes with
  | nil => exact .ok ""
  | cons node rest =>
    refine fails_run_bind (Node.traces htags hn hp) fun text s' hrun => ?_
    have hstep : Leads setup filters ⟨t, n + 1, node :: rest, s⟩ ⟨t, n + 1, rest, s'⟩ := .next hrun
    rw [Render.run_after]
    intro e he hrender
    have hrest := Render.of_afterOutcome_eq_error he hrender.isFault
    exact hstep.traces (Node.traces_nodes htags hn (hstep.builtin htags hp) e hrest hrender)

/-- An error of rendering a body of a tag is traced, by induction on the bodies. -/
theorem Node.traces_bodies (htags : setup.tags = TagKind.builtin) {n : Nat}
    (hn : TracesIn setup filters n) {t : Template} {bodies : List (List Node)} {i : Nat}
    {body : List Node} {s : Rendering} (hbody : bodies[i]? = some body)
    (hp : Point.Builtin ⟨t, n + 1, body, s⟩) :
    Fails (fun e => e.IsRender → Point.Traces setup filters ⟨t, n + 1, body, s⟩ e)
      ((renderAll filters (fetch setup filters n) body).run.run s).1 := by
  cases bodies with
  | nil => simp at hbody
  | cons first others =>
    cases i with
    | zero =>
      cases hbody
      exact Node.traces_nodes htags hn hp
    | succ i =>
      have hrest : others[i]? = some body := hbody
      exact Node.traces_bodies htags hn hrest hp

end

/-- Errors are traced through any number of inclusions. -/
theorem tracesIn (htags : setup.tags = TagKind.builtin) (n : Nat) : TracesIn setup filters n := by
  induction n with
  | zero =>
    intro t nodes s _
    exact .error fun hrender => hrender.elim
  | succ n ih =>
    intro t nodes s hp
    exact Node.traces_nodes htags ih hp

end Points

namespace Engine

/-- Whatever a template of built-in tags is rendered in, an error of rendering or of reading has a
place.  An error of an expression of a node, however deep in bodies and in templates that are
included, is the outcome with the place of this node; and every error of rendering is one of these.
-/
theorem faults_placed {e : Engine} (he : e.Builtin) {t : Template} (ht : t.Builtin)
    (options : Options) (scope : Scope) :
    (∀ fault, (e.renderInScope options scope t).1 ≠ .error (.render fault none)) ∧
      (∀ fault near, (e.renderInScope options scope t).1 ≠ .error (.parse fault near none)) ∧
      (∀ u n node rest s raised,
        Relation.ReflTransGen (Leads e.setup (e.filtersFor options)) (e.start scope t)
          ⟨u, n + 1, node :: rest, s⟩ →
        node.Raises e.setup (e.filtersFor options) s raised →
          (e.renderInScope options scope t).1 = .error (raised.orAt node.token.position)) ∧
      ∀ fault place, (e.renderInScope options scope t).1 = .error (.render fault place) →
        ∃ u n node rest s, Relation.ReflTransGen (Leads e.setup (e.filtersFor options))
            (e.start scope t) ⟨u, n + 1, node :: rest, s⟩ ∧
          node.Raises e.setup (e.filtersFor options) s (.render fault none) ∧
          place = some node.token.position := by
  have hplaced := (e.start scope t).hasPlace_run e.setup (e.filtersFor options)
  rw [renderInScope_eq_run_start]
  refine ⟨fun fault h => hplaced _ h, fun fault near h => hplaced _ h, ?_, ?_⟩
  · intro u n node rest s raised hreach hraises
    have hfault : (raised.orAt node.token.position).IsFault :=
      hraises.unplaced.isFault.orAt node.token.position
    exact run_of_reflTransGen hreach hfault (hraises.run u n rest)
  · intro fault place h
    obtain ⟨u, n, node, rest, s, raised, hreach, hraises, hraised⟩ :=
      tracesIn he.tags inclusionBound t t.nodes ⟨scope, e.store⟩ ⟨ht, he.store⟩ _ h trivial
    refine ⟨u, n, node, rest, s, hreach, ?_⟩
    have hunplaced := hraises.unplaced
    cases raised with
    | render raisedFault q =>
      cases q with
      | some q => exact hunplaced.elim
      | none =>
        cases hraised
        exact ⟨hraises, rfl⟩
    | filter => cases hraised
    | _ => exact hunplaced.elim

/-- An engine with a template that uses a variable. -/
def greeters : Engine :=
  ofSources { strictVariables := true } [("greeting.liquid", "Hello\n\x7b\x7b name \x7d\x7d")]

/-- A template that includes the other one in a block and a loop, at last without a variable. -/
def greetSource : String :=
  "\x7b% block x %\x7d\x7b% for name in list %\x7d\x7b% include 'greeting' %\x7d" ++
    "\x7b% endfor %\x7d\x7b% include 'greeting' %\x7d\x7b% endblock %\x7d"

/-- Data for the template. -/
def greetScope : Scope :=
  .ofData [("list", .array [.string "a"])] greeters.options

/-- The line and the column of an error of rendering. -/
def faultPlace? : Except Error String → Option (Nat × Nat)
  | .error (.render _ (some p)) => some (p.line, p.column)
  | _ => none

/-- An outcome with the place of a fault is this fault. -/
theorem exists_of_faultPlace? {r : Except Error String} {place : Nat × Nat}
    (h : faultPlace? r = some place) :
    ∃ fault p, r = .error (.render fault (some p)) ∧ (p.line, p.column) = place := by
  unfold faultPlace? at h
  split at h
  · next fault p => exact ⟨fault, p, rfl, Option.some.inj h⟩
  · cases h

/-- An undefined variable in a template that is included is told with its place there. -/
theorem faults_placed_greeters : ∃ issued fault place,
    (greeters.parse none greetSource).1 = .ok issued ∧ greeters.Builtin ∧
      issued.template.Builtin ∧
      (greeters.renderInScope greeters.options greetScope issued.template).1 =
        .error (.render fault (some place)) ∧ (place.line, place.column) = (2, 1) ∧
      ∃ u n node rest s, Relation.ReflTransGen
          (Leads greeters.setup (greeters.filtersFor greeters.options))
          (greeters.start greetScope issued.template) ⟨u, n + 1, node :: rest, s⟩ ∧
        node.Raises greeters.setup (greeters.filtersFor greeters.options) s (.render fault none) ∧
        some place = some node.token.position := by
  have hcheck : (greeters.parse none greetSource).1.toOption.map (fun issued => faultPlace?
      (greeters.renderInScope greeters.options greetScope issued.template).1) =
        some (some (2, 1)) := by
    decide +kernel
  obtain ⟨issued, hparse, hfault⟩ := exists_ok_of_map_toOption hcheck
  obtain ⟨fault, place, houtcome, hplace⟩ := exists_of_faultPlace? hfault
  have he : greeters.Builtin := builtin_ofSources _ _
  have ht : issued.template.Builtin := (he.parse none greetSource).2 issued hparse
  exact ⟨issued, fault, place, hparse, he, ht, houtcome, hplace,
    (faults_placed he ht greeters.options greetScope).2.2.2 fault (some place) houtcome⟩

end Engine

end Stencil
