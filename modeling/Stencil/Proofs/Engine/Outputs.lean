import Stencil.Proofs.Engine.RawText
import Stencil.Proofs.Expr.Faults
import Stencil.Proofs.Expr.Margins

/-!
# Outputs alone and in a template

An expression between the delimiters of an output is rendered as it is evaluated alone
(`Engine.parseAndRender_output`).  The blanks between the delimiters and the expression keep a dash
at either end of it from being a trim mark and a brace at its end from closing the output
(`Token.exists_tokenize_output`).  Only what an error tells of its place differs (`Error.place`):
the token around the expression is another one, a template knows where it is, and the text behind a
fault may end in white space.
-/

set_option autoImplicit false

namespace Stencil

/-! ## What errors tell of their place -/

/-- The text that a fault shows to tell where it is. -/
def ExprFault.shown : ExprFault → String
  | .unterminatedString rest => Text.shown rest
  | .unexpectedChar _ rest => Text.shown rest
  | _ => ""

/-- The message of a fault of an expression begins without the text that it shows. -/
theorem ExprFault.message_eq (fault : ExprFault) :
    fault.message = fault.bare.message ++ fault.shown := by
  have hempty : Text.shown "" = "" := rfl
  cases fault with
  | unterminatedString rest =>
    show "unterminated string near " ++ Text.shown rest =
      "unterminated string near " ++ Text.shown "" ++ Text.shown rest
    rw [hempty, String.append_empty]
  | unexpectedChar c rest =>
    show "unexpected character " ++ Text.quotedChar c ++ " near " ++ Text.shown rest =
      "unexpected character " ++ Text.quotedChar c ++ " near " ++ Text.shown "" ++ Text.shown rest
    rw [hempty, String.append_empty]
  | _ => exact String.append_empty.symm

/-- A fault without the text that it shows to tell where it is. -/
def ParseFault.bare : ParseFault → ParseFault
  | .expression fault => .expression fault.bare
  | fault => fault

/-- The text that a fault shows to tell where it is. -/
def ParseFault.shown : ParseFault → String
  | .expression fault => fault.shown
  | _ => ""

/-- The message of a fault of a template begins without the text that it shows. -/
theorem ParseFault.message_eq (fault : ParseFault) :
    fault.message = fault.bare.message ++ fault.shown := by
  cases fault with
  | expression fault => exact fault.message_eq
  | _ => exact String.append_empty.symm

namespace Error

/-- An error without what it tells of its place. -/
def bare : Error → Error
  | parse fault _ _ => parse fault.bare none none
  | render fault _ => render fault none
  | e => e

/-- The part of a message that tells the token that the error is about. -/
def nearText : Option String → String
  | none => ""
  | some raw => " near \"" ++ Text.shown raw ++ "\""

/-- The end of a message, which tells the place of the error. -/
def place : Error → String
  | parse fault near position => fault.shown ++ (nearText near ++ located position)
  | render _ position => located position
  | _ => ""

/-- The message of an error of reading: the fault, the source text next to it and the place. -/
theorem message_parse (fault : ParseFault) (near : Option String) (position : Option Position) :
    (parse fault near position).message = fault.message ++ (nearText near ++ located position) := by
  cases near with
  | none =>
    show fault.message ++ located position = fault.message ++ ("" ++ located position)
    rw [String.empty_append]
  | some raw =>
    show fault.message ++ " near \"" ++ Text.shown raw ++ "\"" ++ located position =
      fault.message ++ (" near \"" ++ Text.shown raw ++ "\"" ++ located position)
    simp only [String.append_assoc]

/-- The message of an error is that of the bare error, with the place behind it. -/
theorem message_eq (e : Error) : e.message = e.bare.message ++ e.place := by
  cases e with
  | parse fault near position =>
    have hbare : (parse fault.bare none none).message = fault.bare.message ++ ("" ++ "") :=
      message_parse fault.bare none none
    show (parse fault near position).message = (parse fault.bare none none).message ++
      (fault.shown ++ (nearText near ++ located position))
    rw [message_parse, hbare, fault.message_eq, String.append_empty, String.append_empty,
      String.append_assoc]
  | render fault position =>
    show fault.message ++ located position = fault.message ++ "" ++ located position
    rw [String.append_empty]
  | _ => exact String.append_empty.symm

/-- Two errors differ at most in what they tell of their place. -/
structure SameCause (e e' : Error) : Prop where
  cause : e.bare = e'.bare
  messages : ∃ text, e.message = text ++ e.place ∧ e'.message = text ++ e'.place

/-- Errors that are equal without the texts that they show have one cause. -/
theorem SameCause.of_bare {e e' : Error} (h : e.bare = e'.bare) : SameCause e e' :=
  ⟨h, e.bare.message, e.message_eq, h ▸ e'.message_eq⟩

end Error

/-- Two renderings give the same text, or they fail for the same cause. -/
inductive SameRendering : Except Error String → Except Error String → Prop where
  | text (s : String) : SameRendering (.ok s) (.ok s)
  | fault {e e' : Error} (h : e.SameCause e') : SameRendering (.error e) (.error e')

/-! ## The token of an output -/

/-- The source of a template that is one output. -/
def outputSource (expr : String) : String :=
  "\x7b\x7b " ++ expr ++ " \x7d\x7d"

/-- The source of an output is its expression between the delimiters. -/
theorem toList_outputSource (expr : String) : (outputSource expr).toList =
    Delimiter.output.opener ++ (' ' :: (expr.toList ++ ' ' :: Delimiter.output.closer)) := by
  simp [outputSource, Delimiter.opener, Delimiter.closer]

namespace Token

variable {cs : List Char}

/-- A text without a closing delimiter reaches to the one behind it, as a blank is between them. -/
theorem splitMark_output (h : ¬ Delimiter.output.closer <:+: cs) :
    splitMark Delimiter.output.closer (cs ++ ' ' :: Delimiter.output.closer) =
      some (cs ++ [' '], []) := by
  induction cs with
  | nil => rfl
  | cons c cs ih =>
    have hrest : ¬ Delimiter.output.closer <:+: cs :=
      fun hclosed => h (hclosed.trans (List.suffix_cons c cs).isInfix)
    have hmark : ¬ Delimiter.output.closer.isPrefixOf
        (c :: (cs ++ ' ' :: Delimiter.output.closer)) = true := by
      intro hprefix
      cases cs with
      | nil => simp [Delimiter.closer] at hprefix
      | cons d cs =>
        refine h (List.IsPrefix.isInfix ?_)
        simpa [Delimiter.closer] using hprefix
    rw [List.cons_append, splitMark, if_neg hmark, ih hrest]
    rfl

/-- The content of an output is the expression without the white space around it. -/
theorem ofInner_spaced (cs : List Char) :
    Content.ofInner (' ' :: (cs ++ [' '])) = ⟨false, Text.trim cs, false⟩ := by
  have hlast : (' ' :: (cs ++ [' '])).getLast? = some ' ' := by
    rw [← List.cons_append, List.getLast?_concat]
  rw [← Text.trim_spaced cs]
  show (⟨false, Text.trim (if (' ' :: (cs ++ [' '])).getLast? == some '-' then _ else _),
    (' ' :: (cs ++ [' '])).getLast? == some '-'⟩ : Content) = _
  rw [hlast]
  rfl

/-- An expression between the delimiters of an output is cut into one token. -/
theorem exists_tokenize_output (options : Options) {expr : String}
    (hexpr : ∃ c ∈ expr.toList, Text.isBlank c = false)
    (hcloser : ¬ Delimiter.output.closer <:+: expr.toList) :
    ∃ t, tokenize options (outputSource expr) = .ok [t] ∧ t.kind = .output ∧
      t.value = Text.trimmed expr := by
  have hne : (Text.trim expr.toList).isEmpty = false := by
    rw [List.isEmpty_eq_false_iff]
    intro hnil
    obtain ⟨c, hc, hblank⟩ := hexpr
    rw [Text.trim_eq_nil_iff.1 hnil c hc] at hblank
    cases hblank
  have hmark : splitMark Delimiter.output.closer
      (' ' :: (expr.toList ++ ' ' :: Delimiter.output.closer)) =
        some (' ' :: (expr.toList ++ [' ']), []) := by
    rw [splitMark, splitMark_output hcloser]
    rfl
  obtain ⟨t, ht, hkind, hvalue⟩ : ∃ t,
      ofInner options .output (Position.start.advance []) (' ' :: (expr.toList ++ [' '])) = .ok t ∧
        t.kind = .output ∧ t.value = Text.trimmed expr := by
    unfold ofInner
    rw [ofInner_spaced]
    dsimp only
    rw [if_neg (by simp [hne])]
    exact ⟨_, rfl, rfl, rfl⟩
  refine ⟨t, ?_, hkind, hvalue⟩
  have hend : splitOpener [] = ([], none) := rfl
  have hscan : scan options (outputSource expr).toList = .ok (literals .start [] ++ t :: []) := by
    rw [toList_outputSource]
    exact scanFrom_piece (splitOpener_opener _ _) hmark ht (scanFrom_last hend)
  rw [tokenize, hscan]
  show Except.ok (trimFrom options.greedy false false [t]) = _
  rw [trimFrom, if_neg (by simp [hkind]), trimFrom]

end Token

/-! ## The template of an output -/

namespace Template

variable {setup : Setup} {source : String} {t : Token}

/-- The only level of a template of one output is that output. -/
theorem readChain_output (hkind : t.kind = .output) : readChain setup none [t] =
    (ExprFault.inToken t (Output.read t.value)).map fun o => [[.output o t]] := by
  have hnamed (name : String) : t.isTag name = false := by simp [Token.isTag, hkind]
  have htake : takeExtends setup.tags [t] = .ok (none, [t]) := by
    simp [takeExtends, lateExtends, hnamed]
  have hlevels : (levels setup [] [t]).1 = .ok [[t]] := by
    rw [levels, htake]
  have hread : Node.readAll setup.tags [t] =
      (ExprFault.inToken t (Output.read t.value)).map fun o => [.output o t] := by
    have hstep : Progress.step setup.tags {} t =
        (ExprFault.inToken t (Output.read t.value)).map fun o => ⟨[.output o t], []⟩ := by
      rw [Progress.step_of_unaided Progress.unaided_start]
      show Progress.begin setup.tags {} t = _
      rw [Progress.begin, hkind]
      cases ExprFault.inToken t (Output.read t.value) <;> rfl
    rw [Node.readAll, List.foldlM_cons, hstep]
    cases ExprFault.inToken t (Output.read t.value) with
    | error e => rfl
    | ok o => exact Progress.finish_of_unaided Progress.unaided_start
  simp only [readChain, Option.map_none, Option.toList_none, hlevels]
  show [[t]].mapM (readLevel setup.tags) = _
  rw [List.mapM_cons, readLevel, hread]
  cases ExprFault.inToken t (Output.read t.value) <;> rfl

/-- A source of one output fails as its expression does, at the place of the token. -/
theorem parse_output_of_error (htokens : tokenize setup.options source = .ok [t])
    (hkind : t.kind = .output) {fault : ExprFault} (hread : Output.read t.value = .error fault) :
    (parse setup none source).1 = .error (.atToken (.expression fault) t) := by
  rw [parse, htokens]
  show (resolve setup none [t]).1 = _
  rw [resolve_eq, readChain_output hkind, hread]
  rfl

/-- A source of one output is read into a template of one node. -/
theorem parse_output_of_ok (htokens : tokenize setup.options source = .ok [t])
    (hkind : t.kind = .output) {o : Output} (hread : Output.read t.value = .ok o) :
    ∃ template, (parse setup none source).1 = .ok template ∧ template.nodes = [.output o t] := by
  have hchain : readChain setup none [t] = .ok [[.output o t]] := by
    rw [readChain_output hkind, hread]
    rfl
  have hsingle : LevelsRead ([] ++ [[.output o t]]) := readChain_spec hchain
  obtain ⟨template, htemplate, hrewrites⟩ := mergeLevels_rewrites hsingle (List.forall_mem_nil _)
  refine ⟨template, ?_, hrewrites.unique (Node.rewrites_self fun x _ => rfl)⟩
  rw [parse, htokens]
  show (resolve setup none [t]).1 = _
  rw [resolve_eq, hchain]
  exact htemplate

/-- A template of one output is rendered as the text of its value, and an error gets the place of
the output. -/
theorem run_render_output {filters : Filters} {template : Template} {o : Output}
    (h : template.nodes = [.output o t]) (s : Rendering) :
    (template.render setup filters).run.run s =
      (((o.eval filters s.scope).map Value.text).mapError (Error.orAt · t.position), s) := by
  have hnode : (Node.render filters (fetch setup filters 999999) (.output o t)).run.run s =
      (((o.eval filters s.scope).map Value.text).mapError (Error.orAt · t.position), s) := by
    rw [Node.render, Render.run_located, run_bind, Render.run_eval]
    cases o.eval filters s.scope <;> rfl
  rw [Template.render, h, show inclusionBound = 999999 + 1 from rfl, renderIn_succ, Node.renderAll,
    run_bind, hnode]
  cases (o.eval filters s.scope).map Value.text with
  | error e => rfl
  | ok text =>
    dsimp only [Except.mapError]
    rw [Render.run_after, Node.renderAll]
    show (Except.ok (text ++ ""), s) = _
    rw [String.append_empty]

end Template

/-- The place that an error of an expression gets is all that is new. -/
theorem Error.IsUnplaced.sameCause_orAt {err : Error} (h : err.IsUnplaced) (p : Position) :
    (err.orAt p).SameCause err := by
  apply SameCause.of_bare
  match err, h with
  | .render fault none, _ => rfl
  | .filter name fault, _ => rfl

namespace Engine

variable {e : Engine}

/-- An error of an expression is no signal, so it is the outcome of the rendering. -/
theorem rendered_of_unplaced {err : Error} (h : err.IsUnplaced) (p : Position) :
    rendered (.error (err.orAt p)) = .error (err.orAt p) := by
  match err, h with
  | .render fault none, _ => rfl
  | .filter name fault, _ => rfl

/-- What cannot be read is not rendered. -/
theorem parseAndRender_of_error {source : String} {err : Error}
    (h : (Template.parse e.setup none source).1 = .error err) (data : Value) :
    (e.parseAndRender source data).1 = .error err := by
  rw [← e.map_template_parse] at h
  rw [parseAndRender]
  cases hissued : e.parse none source with
  | mk r e' =>
    rw [hissued] at h
    cases r with
    | ok issued => cases h
    | error err' =>
      cases h
      rfl

/-- A source that is read is rendered with the options and the filters of the engine. -/
theorem parseAndRender_of_ok {source : String} {template : Template}
    (h : (Template.parse e.setup none source).1 = .ok template) (root : Dict Value) :
    ∃ store, (e.parseAndRender source (.object root)).1 =
      rendered ((template.render e.setup (e.filtersFor e.options)).run.run
        { scope := Scope.ofData root e.options, store := store }).1 := by
  rw [← e.map_template_parse] at h
  have hengine : (e.parse none source).2 = { e with store := (e.parse none source).2.store } := rfl
  rw [parseAndRender]
  cases hissued : e.parse none source with
  | mk r e' =>
    rw [hissued] at h hengine
    cases r with
    | error err => cases h
    | ok issued =>
      cases h
      dsimp only at hengine
      refine ⟨e'.store, ?_⟩
      rw [hengine]
      have hoptions : ({ e with store := e'.store } : Engine).options = e.options := rfl
      have hfilters : ({ e with store := e'.store } : Engine).filtersFor e.options =
          e.filtersFor e.options := rfl
      simp only [render, rootFrame, renderInScope, hoptions, hfilters]
      generalize (issued.template.render e.setup (e.filtersFor e.options)).run.run _ = outcome
      rfl

/-- An expression that is neither blank nor holds the closing delimiter of outputs gives the same
text alone as between the delimiters of an output, or fails for the same cause. -/
theorem parseAndRender_output (e : Engine) (root : Dict Value) (expr : String)
    (hexpr : ∃ c ∈ expr.toList, Text.isBlank c = false)
    (hcloser : ¬ Delimiter.output.closer <:+: expr.toList) :
    SameRendering (e.parseAndRender (outputSource expr) (.object root)).1
      (e.evalOutput (Scope.ofData root e.options) expr) := by
  obtain ⟨t, htokens, hkind, hvalue⟩ := Token.exists_tokenize_output e.setup.options hexpr hcloser
  have hread := Output.mapError_read_trimmed expr
  rw [← hvalue] at hread
  obtain ⟨o, hinside, halone⟩ | ⟨fault, fault', hinside, halone, hbare⟩ :=
    eq_or_of_mapError_eq hread
  · obtain ⟨template, htemplate, hnodes⟩ :=
      Template.parse_output_of_ok htokens hkind hinside
    obtain ⟨store, hrendered⟩ := parseAndRender_of_ok htemplate root
    rw [Template.run_render_output hnodes] at hrendered
    have heval : e.evalOutput (Scope.ofData root e.options) expr =
        (o.eval (e.filtersFor e.options) (Scope.ofData root e.options)).map Value.text := by
      rw [evalOutput, evaluate, halone]
      show (o.eval _ _ >>= fun v => .ok v.text) = _
      cases o.eval (e.filtersFor e.options) (Scope.ofData root e.options) <;> rfl
    rw [hrendered, heval]
    cases hv : o.eval (e.filtersFor e.options) (Scope.ofData root e.options) with
    | ok v => exact .text v.text
    | error err =>
      have hplace := o.unplaced_eval _ _ err hv
      show SameRendering (rendered (.error (err.orAt t.position))) (.error err)
      rw [rendered_of_unplaced hplace]
      exact .fault (hplace.sameCause_orAt t.position)
  · have hparse := Template.parse_output_of_error htokens hkind hinside
    have heval : e.evalOutput (Scope.ofData root e.options) expr =
        .error (.atToken (.expression fault') (Token.literal expr {})) := by
      rw [evalOutput, evaluate, halone]
      rfl
    rw [parseAndRender_of_error hparse, heval]
    exact .fault (.of_bare (congrArg (fun f => Error.parse (.expression f) none none) hbare))

/-- An expression with a dash and a brace at its ends, and an opening delimiter in between. -/
def bracedExpr : String :=
  "-1 | append: '\x7b%-' \x7d"

/-- An expression of the same characters, with the braces in quotes. -/
def quotedExpr : String :=
  "-1 | append: '\x7b%-' | append: \"-\x7d\""

/-- The first expression cannot be read, alone or in an output, and the second one has a text, which is
the same in both. -/
theorem parseAndRender_output_bracedExpr :
    outputSource bracedExpr = "\x7b\x7b -1 | append: '\x7b%-' \x7d \x7d\x7d" ∧
      SameRendering ((ofSources {} []).parseAndRender (outputSource bracedExpr) (.object [])).1
        ((ofSources {} []).evalOutput (Scope.ofData [] {}) bracedExpr) ∧
      ((ofSources {} []).evalOutput (Scope.ofData [] {}) bracedExpr).toOption = none ∧
      SameRendering ((ofSources {} []).parseAndRender (outputSource quotedExpr) (.object [])).1
        ((ofSources {} []).evalOutput (Scope.ofData [] {}) quotedExpr) ∧
      ((ofSources {} []).evalOutput (Scope.ofData [] {}) quotedExpr).toOption =
        some "-1\x7b%--\x7d" := by
  have hfails := parseAndRender_output (ofSources {} []) [] bracedExpr
    ⟨'-', by decide +kernel, by decide⟩ (by decide +kernel)
  have hrenders := parseAndRender_output (ofSources {} []) [] quotedExpr
    ⟨'-', by decide +kernel, by decide⟩ (by decide +kernel)
  exact ⟨by decide +kernel, hfails, by decide +kernel, hrenders, by decide +kernel⟩

end Engine

end Stencil
