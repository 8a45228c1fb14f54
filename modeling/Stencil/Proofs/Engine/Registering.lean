import Stencil.Proofs.Engine.Caching
import Stencil.Proofs.Engine.Outputs
import Stencil.Proofs.Expr.Connectives

/-!
# Registering tags and filters

A name that a registry binds is bound for ever (`Engine.bound?_after`), as only a name that is not
taken is bound (`Engine.registers_perform`).  Names of tags and filters, words of expressions and
names behind an opening delimiter follow three patterns of their own, of which the first is the
narrowest.  So no name is accepted that a template would cut short: the tag is found by it
(`tokenize_tagSource`), and so is the filter (`Output.read_filter`).
-/

set_option autoImplicit false

namespace Stencil

/-- A name of a tag or a filter: a letter of the basic alphabet or a low line, then word
characters. -/
def IsName (name : String) : Prop :=
  ∃ c rest, name.toList = c :: rest ∧ Text.isNameStart c = true ∧
    ∀ d ∈ rest, Text.isWord d = true

namespace Text

/-- What begins a name is a word character. -/
theorem isWord_of_isNameStart {c : Char} (h : isNameStart c = true) : isWord c = true := by
  obtain ⟨hlow, hhigh⟩ := toNat_of_isNameStart h
  have hall : ∀ i ≤ 57, isNameStart (Char.ofNat (65 + i)) = true →
      isWord (Char.ofNat (65 + i)) = true := by decide +kernel
  have hc := hall (c.toNat - 65) (by omega)
  rw [show 65 + (c.toNat - 65) = c.toNat by omega, Char.ofNat_toNat] at hc
  exact hc h

/-- The check of a name accepts just the names. -/
theorem isPlainName_iff {name : String} : isPlainName name.toList = true ↔ IsName name := by
  unfold IsName
  cases name.toList with
  | nil => simp [isPlainName]
  | cons c rest => simp [isPlainName]

/-- A word has no white space around it. -/
theorem trim_word {cs : List Char} (h : ∀ c ∈ cs, isWord c = true) : trim cs = cs := by
  have hblank : ∀ c ∈ cs, isBlank c = false := by
    intro c hc
    by_contra hb
    have hrest := not_isNameRest_of_isBlank (Bool.of_not_eq_false hb)
    rw [isNameRest, h c hc] at hrest
    cases hrest
  have hstart : trimStart cs = cs := by
    cases cs with
    | nil => rfl
    | cons c cs => rw [trimStart, List.dropWhile_cons, hblank c (List.mem_cons_self ..)]; rfl
  rw [trim, hstart, trimEnd_eq_rdropWhile, List.rdropWhile_eq_self_iff]
  intro hne
  rw [hblank _ (List.getLast_mem hne)]
  exact Bool.false_ne_true

end Text

/-! ## Names in templates -/

section Names

variable {name : String}

/-- A name has word characters only. -/
theorem IsName.isWord (h : IsName name) : ∀ d ∈ name.toList, Text.isWord d = true := by
  obtain ⟨c, rest, hname, hc, hrest⟩ := h
  rw [hname]
  exact List.forall_mem_cons.2 ⟨Text.isWord_of_isNameStart hc, hrest⟩

/-- A mark is found behind a text without its first character. -/
theorem Token.splitMark_of_not_mem {m : Char} {mark cs : List Char} (h : m ∉ cs)
    (after : List Char) :
    splitMark (m :: mark) (cs ++ (m :: mark ++ after)) = some (cs, after) := by
  induction cs with
  | nil => simp [splitMark]
  | cons c cs ih =>
    obtain ⟨hc, hcs⟩ := not_or.1 (mt List.mem_cons.2 h)
    have hnot : ¬ (m :: mark).isPrefixOf (c :: (cs ++ (m :: mark ++ after))) = true := by
      simp [hc]
    rw [List.cons_append, splitMark, if_neg hnot, ih hcs]
    rfl

/-- A name between the delimiters of a tag is cut into the tag of that name. -/
theorem tokenize_tagSource (options : Options) (h : IsName name) :
    ∃ t, tokenize options (Template.tagSource name) = .ok [t] ∧ t.kind = .tag ∧ t.name = name := by
  have hword := h.isWord
  obtain ⟨t, ht, hkind, hname⟩ : ∃ t,
      Token.ofInner options .tag (Position.start.advance []) (' ' :: (name.toList ++ [' '])) =
        .ok t ∧ t.kind = .tag ∧ t.name = name := by
    have htake : name.toList.takeWhile Text.isWord = name.toList :=
      List.takeWhile_eq_self_iff.2 hword
    have hne : name.toList.isEmpty = false := by
      obtain ⟨c, rest, hcons, -⟩ := h
      rw [hcons]
      rfl
    unfold Token.ofInner
    rw [Token.ofInner_spaced, Text.trim_word hword]
    dsimp only
    rw [htake, if_neg (by simp [hne])]
    exact ⟨_, rfl, rfl, String.ofList_toList⟩
  have hmark : Token.splitMark Delimiter.tag.closer
      (' ' :: (name.toList ++ [' ']) ++ Delimiter.tag.closer) =
        some (' ' :: (name.toList ++ [' ']), []) := by
    have hpercent : '%' ∉ ' ' :: (name.toList ++ [' ']) := by
      intro hmem
      have hname : '%' ∈ name.toList := by simpa using hmem
      exact absurd (hword _ hname) (by decide +kernel)
    exact Token.splitMark_of_not_mem hpercent []
  have htext : (Template.tagSource name).toList =
      Delimiter.tag.opener ++ (' ' :: (name.toList ++ [' ']) ++ Delimiter.tag.closer) := by
    simp [Template.tagSource, Delimiter.opener, Delimiter.closer]
  have hend : Token.splitOpener [] = ([], none) := rfl
  have hscan : Token.scan options (Template.tagSource name).toList =
      .ok (Token.literals .start [] ++ t :: []) := by
    rw [htext]
    exact Token.scanFrom_piece (Token.splitOpener_opener _ _) hmark ht (Token.scanFrom_last hend)
  refine ⟨t, ?_, hkind, hname⟩
  rw [tokenize, hscan]
  show Except.ok (Token.trimFrom options.greedy false false [t]) = _
  rw [Token.trimFrom, if_neg (by simp [hkind]), Token.trimFrom]

/-- A name behind a bar is read as the use of the filter of that name. -/
theorem Output.read_filter (h : IsName name) :
    ∃ o, Output.read ("x | " ++ name) = .ok o ∧ o.operand = .path (.var "x") ∧
      o.filters = [⟨name, []⟩] := by
  let t : OutputTree := ⟨.named "x" (by decide) .stop, [.plain name]⟩
  have htext : ("x | " ++ name).toList =
      "x".toList ++ ' ' :: (Punct.bar.chars ++ ' ' :: (name.toList ++ [])) := by
    simp [Punct.chars]
  have hx : Lexeme.lex "x".toList = .ok [.word "x"] := Lexeme.lex_name (by decide)
  have hleft : Lexeme.Cut "x".toList [.word "x"] (' ' :: (Punct.bar.chars ++ ' ' ::
      (name.toList ++ []))) := Lexeme.cut_of_lex hx (by decide)
  have hbar : Lexeme.Cut Punct.bar.chars [.punct .bar] (' ' :: (name.toList ++ [])) :=
    Lexeme.cut_mark (Lexeme.not_goesOn_blank (by decide) _)
  have hname : Lexeme.Cut name.toList [.word name] [] := by
    obtain ⟨c, rest, hcons, hc, hrest⟩ := h
    refine Lexeme.cut_word ⟨c, rest, hc, fun d hd => ?_, .inl hcons⟩ ?_
    · rw [Text.isNameRest, hrest d hd, Bool.true_or]
    · rintro ⟨⟩
  have hlex : Lexeme.lex ("x | " ++ name).toList = .ok t.lexemes := by
    rw [htext, hleft, Lexeme.lex_blank, hbar, Lexeme.lex_blank, List.append_nil, hname.lex]
    rfl
  have hread : Output.read ("x | " ++ name) =
      .ok ⟨Text.trimmed ("x | " ++ name), t.operand.operand, t.filters.map FilterTree.call⟩ := by
    simp only [Output.read, Reading.whole, hlex, bind, Except.bind, Reading.piped_lexemes]
    rfl
  exact ⟨_, hread, rfl, rfl⟩

end Names

/-! ## Registries -/

/-- An implementation of a tag or a filter. -/
inductive Implementation where
  | tag (kind : TagKind)
  | filter (filter : Filter)

/-- The registry that binds a name to an implementation. -/
def Implementation.registry : Implementation → RegistryKind
  | tag _ => .tag
  | filter _ => .filter

/-- A template can use what a registry binds to a name: the name is the name of a tag between the
delimiters of a tag, or that of a filter behind an operand and a bar. -/
def Usable (name : String) : RegistryKind → Prop
  | .tag => ∀ options, ∃ t, tokenize options (Template.tagSource name) = .ok [t] ∧
      t.kind = .tag ∧ t.name = name
  | .filter => ∃ o, Output.read ("x | " ++ name) = .ok o ∧ o.operand = .path (.var "x") ∧
      o.filters = [⟨name, []⟩]

/-- A template can use a tag or a filter of every name. -/
theorem IsName.usable {name : String} (h : IsName name) (registry : RegistryKind) :
    Usable name registry := by
  cases registry with
  | tag => exact fun options => tokenize_tagSource options h
  | filter => exact Output.read_filter h

namespace Engine

/-- What a registry of an engine binds to a name. -/
def bound? (e : Engine) (name : String) : RegistryKind → Option Implementation
  | .tag => (Dict.find? name e.setup.tags).map .tag
  | .filter => (Dict.find? name e.filters).map .filter

/-- The call that registers an implementation under a name. -/
def registration (name : String) : Implementation → Call
  | .tag kind => .registerTag name kind
  | .filter filter => .registerFilter name filter

/-- The engine in which a name is bound to an implementation. -/
def withBound (e : Engine) (name : String) : Implementation → Engine
  | .tag kind => { e with setup := e.setup.withTags (Dict.insert name kind e.setup.tags) }
  | .filter filter => { e with filters := Dict.insert name filter e.filters }

/-- What a registration does: it is refused for a bad name or for one that is taken, and then the
engine is as before; otherwise it binds the name in the registry and nothing else. -/
inductive Registers (e : Engine) (name : String) (i : Implementation) :
    Except Error Reply × Engine → Prop
  | badName (h : ¬ IsName name) :
      Registers e name i (.error (.registration (.badName i.registry name)), e)
  | taken (h : IsName name) (hbound : (e.bound? name i.registry).isSome) :
      Registers e name i (.error (.registration (.taken i.registry name)), e)
  | bound (h : IsName name) (hfree : e.bound? name i.registry = none) {e' : Engine}
      (hself : e'.bound? name i.registry = some i)
      (hother : ∀ other registry, other ≠ name ∨ registry ≠ i.registry →
        e'.bound? other registry = e.bound? other registry) :
      Registers e name i (.ok .done, e')

/-- The three outcomes of the check of a name. -/
theorem checkName_cases (registry : RegistryKind) (name : String) (taken : Bool) :
    (¬ IsName name ∧
        checkName registry name taken = .error (.registration (.badName registry name))) ∨
      (IsName name ∧ taken = true ∧
        checkName registry name taken = .error (.registration (.taken registry name))) ∨
      (IsName name ∧ taken = false ∧ checkName registry name taken = .ok ()) := by
  unfold checkName
  rw [← Text.isPlainName_iff]
  cases Text.isPlainName name.toList <;> cases taken <;> simp

/-- A registration binds its name if the check of the name allows it. -/
theorem perform_registration (e : Engine) (name : String) (i : Implementation) :
    e.perform (registration name i) =
      e.register ((checkName i.registry name (e.bound? name i.registry).isSome).map
        fun _ => e.withBound name i) := by
  cases i with
  | tag kind =>
    have hbound : (e.bound? name (Implementation.tag kind).registry).isSome =
        Dict.contains name e.setup.tags := Option.isSome_map
    show e.register (e.registerTag name kind) = e.register (Except.map _ (checkName .tag name _))
    rw [hbound, registerTag]
    cases checkName .tag name (Dict.contains name e.setup.tags) <;> rfl
  | filter filter =>
    have hbound : (e.bound? name (Implementation.filter filter).registry).isSome =
        Dict.contains name e.filters := Option.isSome_map
    show e.register (e.registerFilter name filter) =
      e.register (Except.map _ (checkName .filter name _))
    rw [hbound, registerFilter]
    cases checkName .filter name (Dict.contains name e.filters) <;> rfl

/-- Binding a name binds it. -/
theorem bound?_withBound_self (e : Engine) (name : String) (i : Implementation) :
    (e.withBound name i).bound? name i.registry = some i := by
  cases i with
  | tag kind =>
    exact congrArg (Option.map Implementation.tag)
      (Dict.find?_insert_self name kind e.setup.tags)
  | filter filter =>
    exact congrArg (Option.map Implementation.filter)
      (Dict.find?_insert_self name filter e.filters)

/-- Binding a name binds no other one, and not in the other registry. -/
theorem bound?_withBound_of_ne (e : Engine) {name other : String} {i : Implementation}
    {registry : RegistryKind} (h : other ≠ name ∨ registry ≠ i.registry) :
    (e.withBound name i).bound? other registry = e.bound? other registry := by
  cases i with
  | tag kind =>
    cases registry with
    | tag =>
      have hname : other ≠ name := h.resolve_right (not_not.2 rfl)
      exact congrArg (Option.map Implementation.tag)
        (Dict.find?_insert_of_ne hname kind e.setup.tags)
    | filter => rfl
  | filter filter =>
    cases registry with
    | tag => rfl
    | filter =>
      have hname : other ≠ name := h.resolve_right (not_not.2 rfl)
      exact congrArg (Option.map Implementation.filter)
        (Dict.find?_insert_of_ne hname filter e.filters)

/-- Every registration has one of the three outcomes. -/
theorem registers_perform (e : Engine) (name : String) (i : Implementation) :
    Registers e name i (e.perform (registration name i)) := by
  rw [perform_registration]
  obtain ⟨h, hcheck⟩ | ⟨h, hbound, hcheck⟩ | ⟨h, hfree, hcheck⟩ :=
    checkName_cases i.registry name (e.bound? name i.registry).isSome
  · rw [hcheck]
    exact .badName h
  · rw [hcheck]
    exact .taken h hbound
  · rw [hcheck]
    exact .bound h (by simpa using hfree) (e.bound?_withBound_self name i)
      fun _ _ => e.bound?_withBound_of_ne

/-! ## Calls -/

section Calls

variable {e : Engine} {name : String} {registry : RegistryKind} {i : Implementation}

/-- Rendering a template binds nothing. -/
theorem bound?_render (e : Engine) (options : Options) (t : Template) (data : Value) :
    (e.render options t data).2.bound? = e.bound? := by
  unfold render
  cases rootFrame data with
  | error err => rfl
  | ok root => rfl

/-- Rendering a template that was loaded binds nothing. -/
theorem bound?_renderIssued (r : Except Error Issued × Engine) (data : Value) :
    (renderIssued r data).2.bound? = r.2.bound? := by
  obtain ⟨r, e⟩ := r
  cases r with
  | error err => rfl
  | ok issued => exact e.bound?_render e.options issued.template data

/-- A call registers something, or it leaves the registries as they are. -/
theorem registration_or_bound?_eq (e : Engine) (call : Call) :
    (∃ name i, call = registration name i) ∨ (e.perform call).2.bound? = e.bound? := by
  cases call with
  | getTemplate name => exact .inr rfl
  | renderFile name data => exact .inr (bound?_renderIssued (e.getTemplate name) data)
  | parseAndRender source data => exact .inr (bound?_renderIssued (e.parse none source) data)
  | registerTag name kind => exact .inl ⟨name, .tag kind, rfl⟩
  | registerFilter name filter => exact .inl ⟨name, .filter filter, rfl⟩

/-- A name that is bound stays bound to the same. -/
theorem Registers.bound?_eq {outcome : Except Error Reply × Engine} {other : String}
    {j : Implementation} (h : Registers e other j outcome)
    (hbound : e.bound? name registry = some i) : outcome.2.bound? name registry = some i := by
  cases h with
  | badName | taken => exact hbound
  | bound _ hfree _ hother =>
    rw [hother, hbound]
    by_contra hsame
    obtain ⟨rfl, rfl⟩ := (not_or.1 hsame).imp not_not.1 not_not.1
    rw [hfree] at hbound
    cases hbound

/-- A name that is bound is bound to the same behind any calls. -/
theorem bound?_after (calls : List Call) (hbound : e.bound? name registry = some i) :
    (after calls e).bound? name registry = some i := by
  refine List.foldlRecOn (motive := fun e : Engine => e.bound? name registry = some i)
    calls _ hbound fun e hbound call _ => ?_
  obtain ⟨other, j, rfl⟩ | hsame := e.registration_or_bound?_eq call
  · exact (e.registers_perform other j).bound?_eq hbound
  · rw [hsame]
    exact hbound

variable {outcome : Except Error Reply × Engine}

/-- A registration fails just for a bad name and for one that is taken. -/
theorem Registers.fails_iff (h : Registers e name i outcome) :
    (∃ err, outcome.1 = .error err) ↔ ¬ IsName name ∨ (e.bound? name i.registry).isSome := by
  cases h with
  | badName hname => exact ⟨fun _ => .inl hname, fun _ => ⟨_, rfl⟩⟩
  | taken _ hbound => exact ⟨fun _ => .inr hbound, fun _ => ⟨_, rfl⟩⟩
  | bound hname hfree _ _ =>
    constructor
    · rintro ⟨_, ⟨⟩⟩
    · rintro (hbad | hbound)
      · exact absurd hname hbad
      · rw [hfree] at hbound
        cases hbound

/-- A registration that fails leaves the engine as it was. -/
theorem Registers.of_error (h : Registers e name i outcome) {err : Error}
    (herr : outcome.1 = .error err) : outcome.2 = e ∧
      (err = .registration (.badName i.registry name) ∨
        err = .registration (.taken i.registry name)) := by
  cases h with
  | badName =>
    cases herr
    exact ⟨rfl, .inl rfl⟩
  | taken =>
    cases herr
    exact ⟨rfl, .inr rfl⟩
  | bound => cases herr

/-- A registration that succeeds binds a name that is usable, and nothing else. -/
theorem Registers.of_ok (h : Registers e name i outcome) {reply : Reply}
    (hreply : outcome.1 = .ok reply) : Usable name i.registry ∧
      outcome.2.bound? name i.registry = some i ∧
      ∀ other registry, other ≠ name ∨ registry ≠ i.registry →
        outcome.2.bound? other registry = e.bound? other registry := by
  cases h with
  | badName | taken => cases hreply
  | bound hname _ hself hother => exact ⟨hname.usable i.registry, hself, hother⟩

/-- The names in the registries are names that can be registered. -/
def Named (e : Engine) : Prop :=
  ∀ name registry i, e.bound? name registry = some i → IsName name

/-- A registration binds names only. -/
theorem Registers.named (h : Registers e name i outcome) (he : e.Named) : outcome.2.Named := by
  cases h with
  | badName | taken => exact he
  | bound hname _ _ hother =>
    intro other registry j hbound
    by_cases hsame : other = name
    · exact hsame ▸ hname
    · rw [hother other registry (.inl hsame)] at hbound
      exact he other registry j hbound

/-- What every engine binds has names. -/
theorem named_ofSources (options : Options) (sources : Dict String) :
    (ofSources options sources).Named := by
  have hkeys {α : Type} {d : Dict α} {name : String}
      (hd : (Dict.keys d).all (fun k => Text.isPlainName k.toList) = true)
      (hname : (Dict.find? name d).isSome) : IsName name := by
    obtain ⟨v, hv⟩ := Option.isSome_iff_exists.1 hname
    exact Text.isPlainName_iff.1 (List.all_eq_true.1 hd name (Dict.mem_keys_of_find? hv))
  intro name registry i hbound
  have hsome := Option.isSome_of_eq_some hbound
  cases registry with
  | tag =>
    rw [bound?, Option.isSome_map] at hsome
    exact hkeys (d := TagKind.builtin) (by decide +kernel) hsome
  | filter =>
    rw [bound?, Option.isSome_map] at hsome
    exact hkeys (d := Filter.builtin) (by decide +kernel) hsome

/-- Whatever is called, only names are bound. -/
theorem Named.after (he : e.Named) (calls : List Call) : (after calls e).Named := by
  refine List.foldlRecOn (motive := Named) calls _ he fun e he call _ => ?_
  obtain ⟨name, i, rfl⟩ | hsame := e.registration_or_bound?_eq call
  · exact (e.registers_perform name i).named he
  · unfold Named
    rw [hsame]
    exact he

end Calls

/-- What a registry of every engine binds to a name. -/
def builtin? (name : String) : RegistryKind → Option Implementation
  | .tag => (Dict.find? name TagKind.builtin).map .tag
  | .filter => (Dict.find? name Filter.builtin).map .filter

/-- What the registries of an engine bind is bound for ever. -/
structure WriteOnce (e : Engine) : Prop where
  /-- What every engine binds is bound as it was. -/
  builtin : ∀ name registry i, builtin? name registry = some i → e.bound? name registry = some i
  /-- A name that is bound is usable. -/
  usable : ∀ name registry i, e.bound? name registry = some i → Usable name registry
  /-- What is bound stays bound to the same behind any further calls. -/
  lasting : ∀ name registry i, e.bound? name registry = some i →
    ∀ further, (after further e).bound? name registry = some i
  /-- A registration fails just if the name is none of a tag or a filter or is taken in that
  registry. -/
  fails : ∀ name i, (∃ err, (e.perform (registration name i)).1 = .error err) ↔
    ¬ IsName name ∨ (e.bound? name i.registry).isSome
  /-- A registration that fails says why and leaves the engine as it was. -/
  refused : ∀ name i err, (e.perform (registration name i)).1 = .error err →
    (e.perform (registration name i)).2 = e ∧
      (err = .registration (.badName i.registry name) ∨
        err = .registration (.taken i.registry name))
  /-- Otherwise the name becomes usable, and it is bound in that registry and nothing else is. -/
  registered : ∀ name i reply, (e.perform (registration name i)).1 = .ok reply →
    Usable name i.registry ∧ (e.perform (registration name i)).2.bound? name i.registry = some i ∧
      ∀ other registry, other ≠ name ∨ registry ≠ i.registry →
        (e.perform (registration name i)).2.bound? other registry = e.bound? other registry

/-- Behind any calls of a new engine, what its registries bind is bound for ever. -/
theorem registries_writeOnce (options : Options) (sources : Dict String) (calls : List Call) :
    (after calls (ofSources options sources)).WriteOnce where
  builtin name registry i hbuiltin := by
    refine bound?_after calls (Eq.trans ?_ hbuiltin)
    cases registry <;> rfl
  usable name registry i hbound :=
    -- the names were accepted, or every engine has them
    ((named_ofSources options sources).after calls name registry i hbound).usable registry
  lasting name registry i hbound further := bound?_after further hbound
  fails name i := (registers_perform _ name i).fails_iff
  refused name i err h := (registers_perform _ name i).of_error h
  registered name i reply h := (registers_perform _ name i).of_ok h

end Engine

end Stencil
