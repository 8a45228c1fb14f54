import Stencil.Proofs.Node.Shape

/-!
# The grammar of templates

What the tokens of a template are when its tags are those of every engine.  A body is a sequence of
items, and an item is a literal, an output, a tag that stands alone, or a tag with the bodies or the
unread tokens up to the tag that closes it (`Derives`).  The grammar names every tag and the reader
of its arguments; that these are the tags that are registered, and how they claim what is behind
them, is looked up here once (`IsBuiltin.cases`).
-/

set_option autoImplicit false

namespace Stencil

/-- A tag that stands alone, and what its arguments are read as. -/
inductive SingleTag : Token → Head → Prop
  | layout {t : Token} {name : String} (h : t.isTag "extends") (ha : templateName t = .ok name) :
      SingleTag t (.layout name)
  | assign {t : Token} {head : Head} (h : t.isTag "assign") (ha : assignment t = .ok head) :
      SingleTag t head
  | inclusion {t : Token} {head : Head} (h : t.isTag "include") (ha : inclusionHead t = .ok head) :
      SingleTag t head
  | leaveLoop {t : Token} (h : t.isTag "break") : SingleTag t (.signal .break)
  | nextRound {t : Token} (h : t.isTag "continue") : SingleTag t (.signal .continue)

/-- A tag that holds one body, and the name of the tag that closes it. -/
inductive BodyTag : Token → Head → String → Prop
  | block {t : Token} (h : t.isTag "block") : BodyTag t (.block (blockName t)) "endblock"
  | capture {t : Token} {name : String} (h : t.isTag "capture") (ha : variableName t = .ok name) :
      BodyTag t (.capture name) "endcapture"

/-- A tag that holds a body and perhaps a second one, and the name of the tag that closes it. -/
inductive ElseTag : Token → Head → String → Prop
  | negated {t : Token} {c : Condition} (h : t.isTag "unless")
      (ha : ExprFault.inToken t (Condition.read t.args) = .ok c) :
      ElseTag t (.negated c) "endunless"
  | loop {t : Token} {head : Head} (h : t.isTag "for") (ha : loopHead t = .ok head) :
      ElseTag t head "endfor"

/-- A tag with a condition. -/
def ConditionTag (name : String) (t : Token) (c : Condition) : Prop :=
  t.isTag name ∧ ExprFault.inToken t (Condition.read t.args) = .ok c

/-- A tag that leaves tokens unread, what it makes of them, and the name of the tag that closes it.
-/
inductive UnreadTag : Token → (List Token → Head) → String → Prop
  | raw {t : Token} (h : t.isTag "raw") : UnreadTag t (fun ts => .text (rawText ts)) "endraw"
  | comment {t : Token} (h : t.isTag "comment") : UnreadTag t (fun _ => .text "") "endcomment"

/-- What some tokens are: a body, an item of a body, the branches of a tag `if` with their
conditions, or the body behind a tag `else`, if there is one. -/
inductive Phrase where
  | body (nodes : List Node)
  | item (n : Node)
  | branches (opener : Token) (conditions : List Condition) (bodies : List (List Node))
  | otherwise (bodies : List (List Node))

/-- The grammar, with the nodes that the items stand for. -/
inductive Derives : Phrase → List Token → Prop
  | empty : Derives (.body []) []
  | snoc {nodes : List Node} {n : Node} {ts us : List Token} (hbody : Derives (.body nodes) ts)
      (hitem : Derives (.item n) us) : Derives (.body (nodes ++ [n])) (ts ++ us)
  | literal {t : Token} (h : t.kind = .literal) : Derives (.item (.literal t)) [t]
  | output {t : Token} {o : Output} (h : t.kind = .output)
      (ho : ExprFault.inToken t (Output.read t.value) = .ok o) : Derives (.item (.output o t)) [t]
  | single {t : Token} {head : Head} (h : SingleTag t head) : Derives (.item (.tag head [] t)) [t]
  | enclosing {t u : Token} {head : Head} {close : String} {body : List Node} {ts : List Token}
      (h : BodyTag t head close) (hbody : Derives (.body body) ts) (hu : u.isTag close) :
      Derives (.item (.tag head [body] t)) (t :: ts ++ [u])
  | choosing {t u : Token} {head : Head} {close : String} {body : List Node}
      {bodies : List (List Node)} {ts us : List Token} (h : ElseTag t head close)
      (hbody : Derives (.body body) ts) (helse : Derives (.otherwise bodies) us)
      (hu : u.isTag close) : Derives (.item (.tag head (body :: bodies) t)) (t :: ts ++ us ++ [u])
  | conditional {t u : Token} {conditions : List Condition} {bodies others : List (List Node)}
      {ts us : List Token} (h : Derives (.branches t conditions bodies) ts)
      (helse : Derives (.otherwise others) us) (hu : u.isTag "endif") :
      Derives (.item (.tag (.conditional conditions) (bodies ++ others) t)) (ts ++ us ++ [u])
  | unread {t u : Token} {f : List Token → Head} {close : String} {ts : List Token}
      (h : UnreadTag t f close) (hts : ∀ s ∈ ts, ¬ s.isTag close) (hu : u.isTag close) :
      Derives (.item (.tag (f ts) [] t)) (t :: ts ++ [u])
  | first {t : Token} {c : Condition} {body : List Node} {ts : List Token}
      (h : ConditionTag "if" t c) (hbody : Derives (.body body) ts) :
      Derives (.branches t [c] [body]) (t :: ts)
  | elsif {t u : Token} {conditions : List Condition} {c : Condition} {bodies : List (List Node)}
      {body : List Node} {ts us : List Token} (h : Derives (.branches t conditions bodies) ts)
      (hu : ConditionTag "elsif" u c) (hbody : Derives (.body body) us) :
      Derives (.branches t (conditions ++ [c]) (bodies ++ [body])) (ts ++ u :: us)
  | noElse : Derives (.otherwise []) []
  | otherwise {u : Token} {body : List Node} {us : List Token} (hu : u.isTag "else")
      (hbody : Derives (.body body) us) : Derives (.otherwise [body]) (u :: us)

/-- A token is a tag of a name if it is a tag and has this name. -/
theorem Token.isTag_iff {t : Token} {name : String} :
    t.isTag name = true ↔ t.kind = .tag ∧ t.name = name := by
  simp [Token.isTag]

/-- A tag has one name. -/
theorem Token.isTag_of_ne {t : Token} {name other : String} (h : t.isTag name) (hne : name ≠ other) :
    t.isTag other = false := by
  rw [Bool.eq_false_iff]
  intro h'
  exact hne ((isTag_iff.1 h).2.symm.trans (isTag_iff.1 h').2)

/-- A tag that is registered with every engine, as one of some kind. -/
def IsBuiltin (t : Token) (kind : TagKind) : Prop :=
  t.kind = .tag ∧ Dict.find? t.name TagKind.builtin = some kind

/-- The tags of every engine, by their names. -/
theorem TagKind.builtin_eq : TagKind.builtin =
    [("assign", assign), ("block", block), ("break", signal .break), ("capture", capture),
      ("comment", comment), ("continue", signal .continue), ("extends", layout), ("for", loop),
      ("if", conditional), ("include", inclusion), ("raw", raw), ("unless", negated)] := by
  rfl

/-- A token with the name of a tag of every engine is one of its kind. -/
theorem isBuiltin_of_isTag {t : Token} {name : String} {kind : TagKind} (h : t.isTag name)
    (hkind : Dict.find? name TagKind.builtin = some kind) : IsBuiltin t kind := by
  obtain ⟨htag, rfl⟩ := Token.isTag_iff.1 h
  exact ⟨htag, hkind⟩

/-- A tag of a kind that every engine has goes by one of the names of this kind. -/
theorem isTag_of_isBuiltin {t : Token} {kind : TagKind} (h : IsBuiltin t kind) :
    ∃ entry ∈ TagKind.builtin, t.isTag entry.1 ∧ entry.2 = kind := by
  obtain ⟨htag, hfind⟩ := h
  generalize TagKind.builtin = tags at hfind
  induction tags with
  | nil => cases hfind
  | cons entry rest ih =>
    simp only [Dict.find?] at hfind
    split at hfind
    · next hname =>
      cases hfind
      exact ⟨entry, List.mem_cons_self .., Token.isTag_iff.2 ⟨htag, hname.symm⟩, rfl⟩
    · obtain ⟨e, he, h⟩ := ih hfind
      exact ⟨e, List.mem_cons_of_mem _ he, h⟩

/-- What the registered tags are in the grammar, by the way in which they claim what is behind them.
-/
theorem IsBuiltin.cases {t : Token} {kind : TagKind} (h : IsBuiltin t kind) :
    (kind.form = .single ∧ ∀ head, kind.head t [] = .ok head → SingleTag t head) ∨
    (∃ close, kind.form = .body none none close ∧
      ∀ head, kind.head t [] = .ok head → BodyTag t head close) ∨
    (∃ close, kind.form = .body none (some "else") close ∧
      ∀ head, kind.head t [] = .ok head → ElseTag t head close) ∨
    (kind.form = .body (some "elsif") (some "else") "endif" ∧
      ∀ head, kind.head t [] = .ok head → ∃ c, ConditionTag "if" t c ∧ head = .conditional [c]) ∨
    ∃ close f, kind.form = .verbatim close ∧ UnreadTag t f close ∧
      ∀ ts, kind.head t ts = .ok (f ts) := by
  obtain ⟨⟨name, kind⟩, hmem, htag, rfl⟩ := isTag_of_isBuiltin h
  simp only [TagKind.builtin_eq, List.mem_cons, Prod.mk.injEq, List.not_mem_nil, or_false] at hmem
  rcases hmem with ⟨rfl, rfl⟩ | ⟨rfl, rfl⟩ | ⟨rfl, rfl⟩ | ⟨rfl, rfl⟩ | ⟨rfl, rfl⟩ | ⟨rfl, rfl⟩ |
    ⟨rfl, rfl⟩ | ⟨rfl, rfl⟩ | ⟨rfl, rfl⟩ | ⟨rfl, rfl⟩ | ⟨rfl, rfl⟩ | ⟨rfl, rfl⟩
  · exact .inl ⟨rfl, fun head h => .assign htag h⟩
  · refine .inr (.inl ⟨_, rfl, fun head h => ?_⟩)
    cases h
    exact .block htag
  · refine .inl ⟨rfl, fun head h => ?_⟩
    cases h
    exact .leaveLoop htag
  · refine .inr (.inl ⟨_, rfl, fun head h => ?_⟩)
    obtain ⟨name, hname, h⟩ := ok_of_bind_eq_ok h
    cases h
    exact .capture htag hname
  · exact .inr (.inr (.inr (.inr ⟨_, _, rfl, .comment htag, fun ts => rfl⟩)))
  · refine .inl ⟨rfl, fun head h => ?_⟩
    cases h
    exact .nextRound htag
  · refine .inl ⟨rfl, fun head h => ?_⟩
    obtain ⟨name, hname, h⟩ := ok_of_bind_eq_ok h
    cases h
    exact .layout htag hname
  · exact .inr (.inr (.inl ⟨_, rfl, fun head h => .loop htag h⟩))
  · refine .inr (.inr (.inr (.inl ⟨rfl, fun head h => ?_⟩)))
    obtain ⟨c, hc, h⟩ := ok_of_bind_eq_ok h
    cases h
    exact ⟨c, ⟨htag, hc⟩, rfl⟩
  · exact .inl ⟨rfl, fun head h => .inclusion htag h⟩
  · exact .inr (.inr (.inr (.inr ⟨_, _, rfl, .raw htag, fun ts => rfl⟩)))
  · refine .inr (.inr (.inl ⟨_, rfl, fun head h => ?_⟩))
    obtain ⟨c, hc, h⟩ := ok_of_bind_eq_ok h
    cases h
    exact .negated htag hc

/-- The reader takes a tag that stands alone for what the grammar says. -/
theorem SingleTag.exists_kind {t : Token} {head : Head} (h : SingleTag t head) :
    ∃ kind, IsBuiltin t kind ∧ kind.form = .single ∧ kind.head t [] = .ok head := by
  cases h with
  | layout h ha =>
    exact ⟨.layout, isBuiltin_of_isTag h rfl, rfl, by simp [TagKind.head, ha]⟩
  | assign h ha => exact ⟨.assign, isBuiltin_of_isTag h rfl, rfl, ha⟩
  | inclusion h ha => exact ⟨.inclusion, isBuiltin_of_isTag h rfl, rfl, ha⟩
  | leaveLoop h => exact ⟨.signal .break, isBuiltin_of_isTag h rfl, rfl, rfl⟩
  | nextRound h => exact ⟨.signal .continue, isBuiltin_of_isTag h rfl, rfl, rfl⟩

/-- The reader takes a tag with one body for what the grammar says. -/
theorem BodyTag.exists_kind {t : Token} {head : Head} {close : String} (h : BodyTag t head close) :
    ∃ kind, IsBuiltin t kind ∧ kind.form = .body none none close ∧ kind.head t [] = .ok head := by
  cases h with
  | block h => exact ⟨.block, isBuiltin_of_isTag h rfl, rfl, rfl⟩
  | capture h ha =>
    exact ⟨.capture, isBuiltin_of_isTag h rfl, rfl, by simp [TagKind.head, ha]⟩

/-- The reader takes a tag with a branch for all other cases for what the grammar says. -/
theorem ElseTag.exists_kind {t : Token} {head : Head} {close : String} (h : ElseTag t head close) :
    ∃ kind, IsBuiltin t kind ∧ kind.form = .body none (some "else") close ∧
      kind.head t [] = .ok head := by
  cases h with
  | negated h ha =>
    exact ⟨.negated, isBuiltin_of_isTag h rfl, rfl, by simp [TagKind.head, ha]⟩
  | loop h ha => exact ⟨.loop, isBuiltin_of_isTag h rfl, rfl, ha⟩

/-- The reader takes a tag whose body is left unread for what the grammar says. -/
theorem UnreadTag.exists_kind {t : Token} {f : List Token → Head} {close : String}
    (h : UnreadTag t f close) : ∃ kind, IsBuiltin t kind ∧ kind.form = .verbatim close ∧
      ∀ ts, kind.head t ts = .ok (f ts) := by
  cases h with
  | raw h => exact ⟨.raw, isBuiltin_of_isTag h rfl, rfl, fun ts => rfl⟩
  | comment h => exact ⟨.comment, isBuiltin_of_isTag h rfl, rfl, fun ts => rfl⟩

end Stencil
