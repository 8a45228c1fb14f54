import Stencil.Proofs.Arena.Forest
import Stencil.Proofs.Node.Settling

/-!
# What is parsed

The tokens that are read without an error are those of the grammar, and what is read are the nodes
of their derivation (`Node.readAll_iff_derives`).  Reading along a derivation puts its nodes where
the reader stands, whatever was opened around (`Derives.runs`), and so there is no other derivation.
The other way round, the tokens that were read so far are a body outside, and behind it for every
open tag what opened it and a body (`Reached`).
-/

set_option autoImplicit false

namespace Stencil

/-- A name that no registered tag has. -/
def Unregistered (name : String) : Prop :=
  Dict.find? name TagKind.builtin = none

/-- A tag of every engine has no name that is not registered. -/
theorem IsBuiltin.isTag_eq_false {t : Token} {kind : TagKind} (h : IsBuiltin t kind) {name : String}
    (hname : Unregistered name) : t.isTag name = false := by
  rw [Bool.eq_false_iff]
  intro htag
  obtain ⟨-, rfl⟩ := Token.isTag_iff.1 htag
  exact Option.some_ne_none kind (h.2.symm.trans hname)

namespace Progress

/-- What is read next is an item: the innermost tag, if one is open, waits for the end of a body. -/
def Accepts (p : Progress) : Prop :=
  ∀ o ∈ p.opened.head?, ∃ head complete again last close,
    o.pending = .body head complete again last close ∧ Unregistered close ∧
      (∀ name ∈ again, Unregistered name) ∧ ∀ name ∈ last, Unregistered name

section Step

variable {p q : Progress} {t u : Token} {nodes : List Node} {o : OpenTag} {outer : List OpenTag}
  {head : Head} {complete : List (List Node)} {again last : Option String} {close : String}

/-- A token with none of the names is not named. -/
theorem isNamed_eq_false {name? : Option String} (h : ∀ name ∈ name?, t.isTag name = false) :
    isNamed t name? = false := by
  cases name? with
  | none => rfl
  | some name => exact h name rfl

/-- What waits for the end of a body is not read by a factory. -/
theorem Accepts.direct (hp : p.Accepts) : p.Direct := by
  intro o ho factory got hfree
  obtain ⟨head, complete, again, last, close, hbody, -⟩ := hp o ho
  rw [hbody] at hfree
  cases hfree

/-- A token that ends nothing begins an item. -/
theorem step_of_accepts (hp : p.Accepts) (ht : t.kind = .tag → ∃ kind, IsBuiltin t kind)
    (hbegin : p.begin TagKind.builtin t = .ok q) : p.step TagKind.builtin t = .ok q := by
  apply step_of_read hp.direct
  have hnot : ∀ name, Unregistered name → t.isTag name = false := by
    intro name hname
    rw [Bool.eq_false_iff]
    intro htag
    obtain ⟨kind, hkind⟩ := ht (Token.isTag_iff.1 htag).1
    rw [hkind.isTag_eq_false hname] at htag
    cases htag
  obtain ⟨nodes, opened⟩ := p
  cases opened with
  | nil => exact hbegin
  | cons o outer =>
    obtain ⟨head, complete, again, last, close, ho, hclose, hagain, hlast⟩ := hp o rfl
    have hagain' := isNamed_eq_false fun name hname => hnot name (hagain name hname)
    have hlast' := isNamed_eq_false fun name hname => hnot name (hlast name hname)
    simp [read, ho, hnot close hclose, hagain', hlast', hbegin]

/-- A tag that waits for the end of a body is not read by a factory. -/
theorem direct_of_body (ho : o.pending = .body head complete again last close) :
    Direct ⟨nodes, o :: outer⟩ := by
  rintro _ ⟨⟩ factory got hfree
  rw [ho] at hfree
  cases hfree

/-- Nor is one that claims tokens unread. -/
theorem direct_of_verbatim {claimed : List Token} (ho : o.pending = .verbatim close claimed) :
    Direct ⟨nodes, o :: outer⟩ := by
  rintro _ ⟨⟩ factory got hfree
  rw [ho] at hfree
  cases hfree

/-- The closing tag completes a tag with its last body. -/
theorem step_close (ho : o.pending = .body head complete again last close) (hu : u.isTag close) :
    step TagKind.builtin ⟨nodes, o :: outer⟩ u = .ok (leave o outer head (complete ++ [nodes])) := by
  apply step_of_read (direct_of_body ho)
  simp [read, ho, hu]
  rfl

/-- A tag that begins a further body completes the one before it. -/
theorem step_again (ho : o.pending = .body head complete again last close)
    (hclose : u.isTag close = false) (hu : isNamed u again) {next : Head}
    (hnext : head.again u = .ok next) :
    step TagKind.builtin ⟨nodes, o :: outer⟩ u =
      .ok ⟨[], { o with pending := .body next (complete ++ [nodes]) again last close } :: outer⟩ := by
  apply step_of_read (direct_of_body ho)
  simp [read, ho, hclose, hu, hnext]

/-- A tag that begins the last body completes the one before it. -/
theorem step_last (ho : o.pending = .body head complete again last close)
    (hclose : u.isTag close = false) (hagain : isNamed u again = false) (hu : isNamed u last) :
    step TagKind.builtin ⟨nodes, o :: outer⟩ u =
      .ok ⟨[], { o with pending := .body head (complete ++ [nodes]) none none close } :: outer⟩ := by
  apply step_of_read (direct_of_body ho)
  simp [read, ho, hclose, hagain, hu]
  rfl

/-- A token that is no closing tag is claimed unread. -/
theorem step_skip {claimed : List Token} (ho : o.pending = .verbatim close claimed)
    (hu : u.isTag close = false) : step TagKind.builtin ⟨nodes, o :: outer⟩ u =
      .ok ⟨nodes, { o with pending := .verbatim close (claimed ++ [u]) } :: outer⟩ := by
  apply step_of_read (direct_of_verbatim ho)
  simp [read, ho, hu]
  rfl

/-- The closing tag completes a tag with the tokens that were left unread. -/
theorem step_unskip {claimed : List Token} (ho : o.pending = .verbatim close claimed)
    (hu : u.isTag close) (hhead : o.kind.head o.opener claimed = .ok head) :
    step TagKind.builtin ⟨nodes, o :: outer⟩ u = .ok (leave o outer head []) := by
  apply step_of_read (direct_of_verbatim ho)
  simp [read, ho, hu, hhead]

/-- A tag that stands alone is added to the nodes. -/
theorem begin_single {kind : TagKind} (h : IsBuiltin t kind) (hform : kind.form = .single)
    (hhead : kind.head t [] = .ok head) :
    p.begin TagKind.builtin t = .ok (p.add (.tag head [] t)) := by
  simp [begin, h.1, h.2, hform, hhead]

/-- A tag with bodies is open, and its first body is read. -/
theorem begin_body {kind : TagKind} (h : IsBuiltin t kind) (hform : kind.form = .body again last close)
    (hhead : kind.head t [] = .ok head) : p.begin TagKind.builtin t =
      .ok (p.enter t kind (.body head [] again last close)) := by
  simp [begin, h.1, h.2, hform, hhead]

/-- A tag whose body is left unread is open, and nothing is claimed yet. -/
theorem begin_verbatim {kind : TagKind} (h : IsBuiltin t kind) (hform : kind.form = .verbatim close) :
    p.begin TagKind.builtin t = .ok (p.enter t kind (.verbatim close [])) := by
  simp [begin, h.1, h.2, hform]
  rfl

end Step

/-- In a body, no tag that may begin a node ends the body. -/
theorem accepts_inside {nodes : List Node} {o : OpenTag} {outer : List OpenTag} {head : Head}
    {complete : List (List Node)} {again last : Option String} {close : String}
    (ho : o.pending = .body head complete again last close) (hclose : Unregistered close)
    (hagain : ∀ name ∈ again, Unregistered name) (hlast : ∀ name ∈ last, Unregistered name) :
    Accepts ⟨nodes, o :: outer⟩ := by
  intro o' ho'
  cases ho'
  exact ⟨head, complete, again, last, close, ho, hclose, hagain, hlast⟩

/-- Reads some tokens one after the other. -/
def run (ts : List Token) (p : Progress) : Except Error Progress :=
  ts.foldlM (step TagKind.builtin) p

section Run

variable {p q : Progress} {t : Token} {ts us : List Token}

/-- Without tokens, nothing is read. -/
theorem run_nil (p : Progress) : run [] p = .ok p := rfl

/-- Tokens are read one by one. -/
theorem run_cons (h : p.step TagKind.builtin t = .ok q) : run (t :: ts) p = run ts q := by
  rw [run, List.foldlM_cons, h]
  rfl

/-- Tokens are read in two parts. -/
theorem run_append (h : run ts p = .ok q) : run (ts ++ us) p = run us q := by
  rw [run] at h ⊢
  rw [List.foldlM_append, h]
  rfl

/-- One token is read in one step. -/
theorem run_one (h : p.step TagKind.builtin t = .ok q) : run [t] p = .ok q :=
  run_cons h

/-- Tokens up to a closing tag are claimed. -/
theorem run_skip {nodes : List Node} {o : OpenTag} {outer : List OpenTag} {close : String}
    {claimed : List Token} (ho : o.pending = .verbatim close claimed)
    (hts : ∀ s ∈ ts, ¬ s.isTag close) : run ts ⟨nodes, o :: outer⟩ =
      .ok ⟨nodes, { o with pending := .verbatim close (claimed ++ ts) } :: outer⟩ := by
  induction ts generalizing o claimed with
  | nil =>
    rw [List.append_nil, ← ho]
    rfl
  | cons t ts ih =>
    obtain ⟨ht, hts⟩ := List.forall_mem_cons.1 hts
    rw [run_cons (step_skip ho (Bool.eq_false_iff.2 ht)), ih rfl hts, List.append_assoc,
      List.singleton_append]

end Run

end Progress

open Progress

/-- The names of the inner tags of a condition are not registered. -/
theorem unregistered_else : Unregistered "else" ∧ Unregistered "elsif" ∧ Unregistered "endif" := by
  unfold Unregistered
  decide +kernel

/-- The closing tag of a body is not registered. -/
theorem BodyTag.unregistered {t : Token} {head : Head} {close : String} (h : BodyTag t head close) :
    Unregistered close := by
  unfold Unregistered
  cases h <;> decide +kernel

/-- The closing tag of a body is not registered, and it is not the one for all other cases. -/
theorem ElseTag.unregistered {t : Token} {head : Head} {close : String} (h : ElseTag t head close) :
    Unregistered close ∧ "else" ≠ close := by
  unfold Unregistered
  cases h <;> decide +kernel

section Completeness

/-- What reading the tokens of a phrase does: the nodes come behind those of the innermost body, the
branches of a tag `if` leave it open, and the body behind a tag `else` ends with the closing tag. -/
def Phrase.Runs (ts : List Token) : Phrase → Prop
  | .body nodes => ∀ p : Progress, p.Accepts → run ts p = .ok ⟨p.nodes ++ nodes, p.opened⟩
  | .item n => ∀ p : Progress, p.Accepts → run ts p = .ok (p.add n)
  | .branches t conditions bodies => ∀ p : Progress, p.Accepts →
      ∃ complete last, bodies = complete ++ [last] ∧ run ts p = .ok ⟨last, ⟨t, .conditional, p.nodes,
        .body (.conditional conditions) complete (some "elsif") (some "else") "endif"⟩ :: p.opened⟩
  | .otherwise bodies => ∀ (nodes : List Node) (o : OpenTag) (outer : List OpenTag) (head : Head)
      (complete : List (List Node)) (again : Option String) (close : String) (u : Token),
      o.pending = .body head complete again (some "else") close → (∀ name ∈ again, "else" ≠ name) →
        "else" ≠ close → Unregistered close → u.isTag close →
          run (ts ++ [u]) ⟨nodes, o :: outer⟩ = .ok (leave o outer head (complete ++ nodes :: bodies))

/-- A tag with one body is read up to its closing tag. -/
theorem runs_enclosing {t u : Token} {head : Head} {close : String} {body : List Node}
    {ts : List Token} (h : BodyTag t head close) (hbody : (Phrase.body body).Runs ts)
    (hu : u.isTag close) : (Phrase.item (.tag head [body] t)).Runs (t :: ts ++ [u]) := by
  intro p hp
  obtain ⟨kind, hkind, hform, hhead⟩ := h.exists_kind
  have hinside : Accepts (p.enter t kind (.body head [] none none close)) :=
    accepts_inside rfl h.unregistered (by simp) (by simp)
  have hopen := step_of_accepts hp (fun _ => ⟨kind, hkind⟩) (begin_body hkind hform hhead)
  rw [List.cons_append, run_cons hopen, run_append (hbody _ hinside)]
  exact run_one (step_close (o := ⟨t, kind, p.nodes, _⟩) rfl hu)

/-- A tag with a branch for all other cases is read up to its closing tag. -/
theorem runs_choosing {t u : Token} {head : Head} {close : String} {body : List Node}
    {bodies : List (List Node)} {ts us : List Token} (h : ElseTag t head close)
    (hbody : (Phrase.body body).Runs ts) (helse : (Phrase.otherwise bodies).Runs us)
    (hu : u.isTag close) : (Phrase.item (.tag head (body :: bodies) t)).Runs (t :: ts ++ us ++ [u]) := by
  intro p hp
  obtain ⟨kind, hkind, hform, hhead⟩ := h.exists_kind
  obtain ⟨hclose, hne⟩ := h.unregistered
  have hinside : Accepts (p.enter t kind (.body head [] none (some "else") close)) :=
    accepts_inside rfl hclose (by simp) (by simpa using unregistered_else.1)
  have hopen := step_of_accepts hp (fun _ => ⟨kind, hkind⟩) (begin_body hkind hform hhead)
  rw [List.append_assoc, List.cons_append, run_cons hopen, run_append (hbody _ hinside)]
  exact helse body _ p.opened head [] none close u rfl (by simp) hne hclose hu

/-- Branches and one for all other cases are read up to the closing tag. -/
theorem runs_conditional {t u : Token} {conditions : List Condition}
    {bodies others : List (List Node)} {ts us : List Token}
    (h : (Phrase.branches t conditions bodies).Runs ts) (helse : (Phrase.otherwise others).Runs us)
    (hu : u.isTag "endif") :
    (Phrase.item (.tag (.conditional conditions) (bodies ++ others) t)).Runs (ts ++ us ++ [u]) := by
  intro p hp
  obtain ⟨complete, last, rfl, hrun⟩ := h p hp
  rw [List.append_assoc, run_append hrun, helse last _ p.opened _ complete (some "elsif") "endif" u rfl
    (by simp) (by simp) unregistered_else.2.2 hu, List.append_assoc]
  rfl

/-- A tag whose body is left unread is read up to its closing tag. -/
theorem runs_unread {t u : Token} {f : List Token → Head} {close : String} {ts : List Token}
    (h : UnreadTag t f close) (hts : ∀ s ∈ ts, ¬ s.isTag close) (hu : u.isTag close) :
    (Phrase.item (.tag (f ts) [] t)).Runs (t :: ts ++ [u]) := by
  intro p hp
  obtain ⟨kind, hkind, hform, hhead⟩ := h.exists_kind
  have hopen := step_of_accepts hp (fun _ => ⟨kind, hkind⟩) (begin_verbatim hkind hform)
  have hskip : run ts (p.enter t kind (.verbatim close [])) =
      .ok ⟨[], ⟨t, kind, p.nodes, .verbatim close ts⟩ :: p.opened⟩ :=
    run_skip (o := ⟨t, kind, p.nodes, .verbatim close []⟩) rfl hts
  rw [List.cons_append, run_cons hopen, run_append hskip]
  exact run_one (step_unskip (o := ⟨t, kind, p.nodes, _⟩) rfl hu (hhead ts))

/-- The first branch of a condition is read. -/
theorem runs_first {t : Token} {c : Condition} {body : List Node} {ts : List Token}
    (h : ConditionTag "if" t c) (hbody : (Phrase.body body).Runs ts) :
    (Phrase.branches t [c] [body]).Runs (t :: ts) := by
  intro p hp
  obtain ⟨htag, hc⟩ := h
  have hkind : IsBuiltin t .conditional := isBuiltin_of_isTag htag rfl
  obtain ⟨helse, helsif, hendif⟩ := unregistered_else
  have hinside : Accepts (p.enter t .conditional
      (.body (.conditional [c]) [] (some "elsif") (some "else") "endif")) :=
    accepts_inside rfl hendif (by simpa using helsif) (by simpa using helse)
  have hhead : TagKind.conditional.head t [] = .ok (.conditional [c]) := by
    simp [TagKind.head, hc]
  have hopen := step_of_accepts hp (fun _ => ⟨_, hkind⟩) (begin_body hkind rfl hhead)
  refine ⟨[], body, rfl, ?_⟩
  rw [run_cons hopen, hbody _ hinside]
  rfl

/-- A further branch of a condition is read. -/
theorem runs_elsif {t u : Token} {conditions : List Condition} {c : Condition}
    {bodies : List (List Node)} {body : List Node} {ts us : List Token}
    (h : (Phrase.branches t conditions bodies).Runs ts) (hu : ConditionTag "elsif" u c)
    (hbody : (Phrase.body body).Runs us) :
    (Phrase.branches t (conditions ++ [c]) (bodies ++ [body])).Runs (ts ++ u :: us) := by
  intro p hp
  obtain ⟨complete, last, rfl, hrun⟩ := h p hp
  obtain ⟨htag, hc⟩ := hu
  obtain ⟨helse, helsif, hendif⟩ := unregistered_else
  have hnext : Head.again (.conditional conditions) u = .ok (.conditional (conditions ++ [c])) := by
    simp [Head.again, hc]
  have hstep : step TagKind.builtin ⟨last, ⟨t, .conditional, p.nodes, .body (.conditional conditions)
      complete (some "elsif") (some "else") "endif"⟩ :: p.opened⟩ u =
        .ok ⟨[], ⟨t, .conditional, p.nodes, .body (.conditional (conditions ++ [c]))
          (complete ++ [last]) (some "elsif") (some "else") "endif"⟩ :: p.opened⟩ :=
    step_again (o := ⟨t, .conditional, p.nodes, .body (.conditional conditions) complete (some "elsif")
      (some "else") "endif"⟩) rfl (Token.isTag_of_ne htag (by simp)) htag hnext
  have hinside : Accepts ⟨[], ⟨t, .conditional, p.nodes, .body (.conditional (conditions ++ [c]))
      (complete ++ [last]) (some "elsif") (some "else") "endif"⟩ :: p.opened⟩ :=
    accepts_inside rfl hendif (by simpa using helsif) (by simpa using helse)
  refine ⟨complete ++ [last], body, rfl, ?_⟩
  rw [run_append hrun, run_cons hstep, hbody _ hinside]
  rfl

/-- Without a branch for all other cases, nothing more is read. -/
theorem runs_noElse : (Phrase.otherwise []).Runs [] := by
  intro nodes o outer head complete again close u ho _ _ _ hu
  exact run_one (step_close ho hu)

/-- The branch for all other cases is read. -/
theorem runs_otherwise {u : Token} {body : List Node} {us : List Token} (hu : u.isTag "else")
    (hbody : (Phrase.body body).Runs us) : (Phrase.otherwise [body]).Runs (u :: us) := by
  intro nodes o outer head complete again close v ho hagain hclose hfree hv
  have hnamed : isNamed u again = false := by
    apply isNamed_eq_false
    intro name hname
    exact Token.isTag_of_ne hu (hagain name hname)
  have hstep : step TagKind.builtin ⟨nodes, o :: outer⟩ u =
      .ok ⟨[], { o with pending := .body head (complete ++ [nodes]) none none close } :: outer⟩ :=
    step_last ho (Token.isTag_of_ne hu hclose) hnamed hu
  have hinside : Accepts
      ⟨[], { o with pending := .body head (complete ++ [nodes]) none none close } :: outer⟩ :=
    accepts_inside rfl hfree (by simp) (by simp)
  rw [List.cons_append, run_cons hstep, run_append (hbody _ hinside), run_one (step_close rfl hv),
    List.append_assoc]
  rfl

/-- Reading the tokens of a derivation puts its nodes where the reader stands. -/
theorem Derives.runs {phrase : Phrase} {ts : List Token} (h : Derives phrase ts) :
    phrase.Runs ts := by
  induction h with
  | empty =>
    intro p _
    rw [run_nil, List.append_nil]
  | @snoc nodes n ts us _ _ ihbody ihitem =>
    intro p hp
    have hinside : Accepts ⟨p.nodes ++ nodes, p.opened⟩ := hp
    rw [run_append (ihbody p hp), ihitem _ hinside, add, List.append_assoc]
  | literal h =>
    intro p hp
    apply run_one
    apply step_of_accepts hp (by simp [h])
    rw [begin, h]
    rfl
  | output h ho =>
    intro p hp
    apply run_one
    apply step_of_accepts hp (by simp [h])
    rw [begin, h, ho]
    rfl
  | single h =>
    intro p hp
    obtain ⟨kind, hkind, hform, hhead⟩ := h.exists_kind
    apply run_one
    exact step_of_accepts hp (fun _ => ⟨kind, hkind⟩) (begin_single hkind hform hhead)
  | enclosing h _ hu ih => exact runs_enclosing h ih hu
  | choosing h _ _ hu ihbody ihelse => exact runs_choosing h ihbody ihelse hu
  | conditional _ _ hu ihbranches ihelse => exact runs_conditional ihbranches ihelse hu
  | unread h hts hu => exact runs_unread h hts hu
  | first h _ ih => exact runs_first h ih
  | elsif _ hu _ ihbranches ihbody => exact runs_elsif ihbranches hu ihbody
  | noElse => exact runs_noElse
  | otherwise hu _ ih => exact runs_otherwise hu ih

end Completeness

section Soundness

/-- What opens a body of a tag: the tokens from the tag on to where the body begins. -/
inductive Opens : List Token → Token → Pending → Prop
  | enclosing {t : Token} {head : Head} {close : String} (h : BodyTag t head close) :
      Opens [t] t (.body head [] none none close)
  | choosing {t : Token} {head : Head} {close : String} (h : ElseTag t head close) :
      Opens [t] t (.body head [] none (some "else") close)
  | elseOf {t u : Token} {head : Head} {close : String} {body : List Node} {ts : List Token}
      (h : ElseTag t head close) (hbody : Derives (.body body) ts) (hu : u.isTag "else") :
      Opens (t :: ts ++ [u]) t (.body head [body] none none close)
  | branch {t : Token} {conditions : List Condition} {complete : List (List Node)} {ts : List Token}
      (h : ∀ body us, Derives (.body body) us →
        Derives (.branches t conditions (complete ++ [body])) (ts ++ us)) :
      Opens ts t (.body (.conditional conditions) complete (some "elsif") (some "else") "endif")
  | elseBranch {t u : Token} {conditions : List Condition} {bodies : List (List Node)}
      {ts : List Token} (h : Derives (.branches t conditions bodies) ts) (hu : u.isTag "else") :
      Opens (ts ++ [u]) t (.body (.conditional conditions) bodies none none "endif")

/-- Some tokens that were read up to where an item may begin. -/
inductive Reads : List Token → Progress → Prop
  | outside {nodes : List Node} {ts : List Token} (h : Derives (.body nodes) ts) :
      Reads ts ⟨nodes, []⟩
  | inside {before nodes : List Node} {outer : List OpenTag} {t : Token} {kind : TagKind}
      {pending : Pending} {done ts us : List Token} (h : Reads done ⟨before, outer⟩)
      (ho : Opens ts t pending) (hbody : Derives (.body nodes) us) :
      Reads (done ++ (ts ++ us)) ⟨nodes, ⟨t, kind, before, pending⟩ :: outer⟩

/-- Some tokens that were read up to anywhere. -/
inductive Reached : List Token → Progress → Prop
  | reading {done : List Token} {p : Progress} (h : Reads done p) : Reached done p
  | skipping {before : List Node} {outer : List OpenTag} {t : Token} {kind : TagKind}
      {f : List Token → Head} {close : String} {done claimed : List Token}
      (h : Reads done ⟨before, outer⟩) (ht : UnreadTag t f close)
      (hkind : ∀ ts, kind.head t ts = .ok (f ts)) (hclaimed : ∀ s ∈ claimed, ¬ s.isTag close) :
      Reached (done ++ t :: claimed) ⟨[], ⟨t, kind, before, .verbatim close claimed⟩ :: outer⟩

section Opens

variable {t u : Token} {ts us : List Token} {head : Head} {complete : List (List Node)}
  {again last : Option String} {close : String} {body : List Node}

/-- A tag that is opened waits for bodies. -/
theorem Opens.pending {pending : Pending} (h : Opens ts t pending) :
    ∃ head complete again last close, pending = .body head complete again last close := by
  cases h <;> exact ⟨_, _, _, _, _, rfl⟩

/-- An open tag with a last body and a closing tag is a node of the grammar. -/
theorem Opens.derives_of_close (h : Opens ts t (.body head complete again last close))
    (hbody : Derives (.body body) us) (hu : u.isTag close) :
    Derives (.item (.tag head (complete ++ [body]) t)) (ts ++ us ++ [u]) := by
  cases h with
  | enclosing h => exact .enclosing h hbody hu
  | choosing h =>
    have hitem := Derives.choosing h hbody .noElse hu
    rw [List.append_nil] at hitem
    exact hitem
  | @elseOf _ _ _ _ _ ts h hfirst helse =>
    have hitem := Derives.choosing h hfirst (.otherwise helse hbody) hu
    rw [List.append_cons (t :: ts)] at hitem
    exact hitem
  | branch h =>
    have hitem := Derives.conditional (h body us hbody) .noElse hu
    rw [List.append_nil, List.append_nil] at hitem
    exact hitem
  | @elseBranch _ _ _ _ ts h helse =>
    have hitem := Derives.conditional h (.otherwise helse hbody) hu
    rw [List.append_cons ts] at hitem
    exact hitem

/-- An open tag with a body and a tag for a further one is open. -/
theorem Opens.of_again {name : String} {next : Head}
    (h : Opens ts t (.body head complete (some name) last close)) (hbody : Derives (.body body) us)
    (hu : u.isTag name) (hnext : head.again u = .ok next) :
    Opens (ts ++ us ++ [u]) t (.body next (complete ++ [body]) (some name) last close) := by
  cases h with
  | branch h =>
    obtain ⟨c, hc, hnext⟩ := ok_of_bind_eq_ok hnext
    cases hnext
    apply Opens.branch
    intro inner vs hinner
    rw [List.append_assoc (ts ++ us), List.singleton_append]
    exact .elsif (h body us hbody) ⟨hu, hc⟩ hinner

/-- An open tag with a body and the tag for the last one is open. -/
theorem Opens.of_last {name : String} (h : Opens ts t (.body head complete again (some name) close))
    (hbody : Derives (.body body) us) (hu : u.isTag name) :
    Opens (ts ++ us ++ [u]) t (.body head (complete ++ [body]) none none close) := by
  cases h with
  | choosing h => exact .elseOf h hbody hu
  | branch h => exact .elseBranch (h body us hbody) hu

end Opens

section Reached

variable {done us : List Token} {p p' : Progress} {n : Node} {t : Token}

/-- A node is added to what has been read. -/
theorem Reads.add (h : Reads done p) (hn : Derives (.item n) us) :
    Reads (done ++ us) (p.add n) := by
  cases h with
  | outside h => exact .outside (.snoc h hn)
  | inside h ho hbody =>
    rw [List.append_assoc, List.append_assoc]
    exact .inside h ho (.snoc hbody hn)

/-- What a token begins is in the grammar. -/
theorem Reads.begin (h : Reads done p) (ht : p.begin TagKind.builtin t = .ok p') :
    Reached (done ++ [t]) p' := by
  unfold Progress.begin at ht
  split at ht
  · next hkind =>
    cases ht
    exact .reading (h.add (.literal hkind))
  · next hkind =>
    obtain ⟨o, ho, ht⟩ := ok_of_bind_eq_ok ht
    cases ht
    exact .reading (h.add (.output hkind ho))
  · next htag =>
    split at ht
    · cases ht
    · next kind hfind =>
      have hkind : IsBuiltin t kind := ⟨htag, hfind⟩
      rcases hkind.cases with ⟨hform, hread⟩ | ⟨close, hform, hread⟩ | ⟨close, hform, hread⟩ |
        ⟨hform, hread⟩ | ⟨close, f, hform, hunread, hread⟩
      all_goals rw [hform] at ht
      · obtain ⟨head, hhead, ht⟩ := ok_of_bind_eq_ok ht
        cases ht
        exact .reading (h.add (.single (hread head hhead)))
      · obtain ⟨head, hhead, ht⟩ := ok_of_bind_eq_ok ht
        cases ht
        exact .reading (.inside h (.enclosing (hread head hhead)) .empty)
      · obtain ⟨head, hhead, ht⟩ := ok_of_bind_eq_ok ht
        cases ht
        exact .reading (.inside h (.choosing (hread head hhead)) .empty)
      · obtain ⟨head, hhead, ht⟩ := ok_of_bind_eq_ok ht
        cases ht
        obtain ⟨c, hc, rfl⟩ := hread head hhead
        have hopens : Opens [t] t (.body (.conditional [c]) [] (some "elsif") (some "else") "endif") :=
          .branch fun body us hbody => .first hc hbody
        exact .reading (.inside h hopens .empty)
      · cases ht
        exact .skipping h hunread hread (by simp)

/-- Where an item may begin, no factory reads an open tag. -/
theorem Reads.unaided (h : Reads done p) : p.Unaided := by
  induction h with
  | outside => exact List.forall_mem_nil _
  | inside _ ho _ ih =>
    obtain ⟨head, complete, again, last, close, rfl⟩ := ho.pending
    exact List.forall_mem_cons.2 ⟨nofun, ih⟩

/-- No factory reads an open tag anywhere. -/
theorem Reached.unaided (h : Reached done p) : p.Unaided := by
  cases h with
  | reading h => exact h.unaided
  | skipping h => exact List.forall_mem_cons.2 ⟨nofun, h.unaided⟩

/-- After each token, what has been read is in the grammar. -/
theorem Reached.step (h : Reached done p) (ht : p.step TagKind.builtin t = .ok p') :
    Reached (done ++ [t]) p' := by
  rw [Progress.step_of_unaided h.unaided] at ht
  cases h with
  | reading h =>
    cases h with
    | outside hbody => exact Reads.begin (.outside hbody) ht
    | @inside before nodes outer opener kind pending done ts us h ho hbody =>
      obtain ⟨head, complete, again, last, close, rfl⟩ := ho.pending
      simp only [Progress.read] at ht
      split at ht
      · next hclose =>
        cases ht
        rw [List.append_assoc]
        exact .reading (h.add (ho.derives_of_close hbody hclose))
      · split at ht
        · next hagain =>
          obtain ⟨next, hnext, ht⟩ := ok_of_bind_eq_ok ht
          cases ht
          cases again with
          | none => cases hagain
          | some name =>
            rw [List.append_assoc, ← List.append_nil [t], ← List.append_assoc (ts ++ us)]
            exact .reading (.inside h (ho.of_again hbody hagain hnext) .empty)
        · split at ht
          · next hlast =>
            cases ht
            cases last with
            | none => cases hlast
            | some name =>
              rw [List.append_assoc, ← List.append_nil [t], ← List.append_assoc (ts ++ us)]
              exact .reading (.inside h (ho.of_last hbody hlast) .empty)
          · exact Reads.begin (.inside h ho hbody) ht
  | @skipping before outer opener kind f close done claimed h hunread hkind hclaimed =>
    simp only [Progress.read] at ht
    rw [List.append_assoc]
    split at ht
    · next hclose =>
      rw [hkind] at ht
      cases ht
      exact .reading (h.add (.unread hunread hclaimed hclose))
    · next hclose =>
      cases ht
      refine .skipping h hunread hkind fun s hs => ?_
      rcases List.mem_append.1 hs with hs | hs
      · exact hclaimed s hs
      · rw [List.mem_singleton.1 hs]
        exact hclose

/-- After any tokens, what has been read is in the grammar. -/
theorem Reached.run {ts : List Token} (h : Reached done p) (hrun : Progress.run ts p = .ok p') :
    Reached (done ++ ts) p' := by
  induction ts generalizing done p with
  | nil =>
    cases hrun
    rw [List.append_nil]
    exact h
  | cons t ts ih =>
    rw [Progress.run, List.foldlM_cons] at hrun
    obtain ⟨q, hq, hrun⟩ := ok_of_bind_eq_ok hrun
    rw [List.append_cons]
    exact ih (h.step hq) hrun

/-- Whatever the reader has come to is in the grammar. -/
theorem reached_of_run {ts : List Token} (h : Progress.run ts {} = .ok p) : Reached ts p :=
  Reached.run (.reading (.outside .empty)) h

/-- When no tag is left open, what was read is a body. -/
theorem Reached.finish {nodes : List Node} (h : Reached done p)
    (hp : p.finish TagKind.builtin = .ok nodes) : Derives (.body nodes) done := by
  rw [Progress.finish_of_unaided h.unaided] at hp
  cases h with
  | reading h =>
    cases h with
    | outside hbody =>
      cases hp
      exact hbody
    | inside _ ho _ =>
      obtain ⟨head, complete, again, last, close, rfl⟩ := ho.pending
      cases hp
  | skipping => cases hp

end Reached

end Soundness

/-- A body is derived in one way. -/
theorem Derives.unique {nodes nodes' : List Node} {ts : List Token}
    (h : Derives (.body nodes) ts) (h' : Derives (.body nodes') ts) : nodes = nodes' := by
  have hstart : Accepts {} := by simp [Accepts]
  have hrun := (h.runs {} hstart).symm.trans (h'.runs {} hstart)
  cases hrun
  rfl

/-- Tokens that are read without an error are derived as a body. -/
theorem Node.derives_of_readAll {tokens : List Token} {nodes : List Node}
    (h : Node.readAll TagKind.builtin tokens = .ok nodes) : Derives (.body nodes) tokens := by
  obtain ⟨p, hrun, hp⟩ := ok_of_bind_eq_ok h
  exact (reached_of_run hrun).finish hp

/-- Tokens that are read to the end are read up to anywhere. -/
theorem Node.exists_run_of_prefix {tokens before : List Token} {nodes : List Node}
    (h : Node.readAll TagKind.builtin tokens = .ok nodes) (hbefore : before <+: tokens) :
    ∃ p, Progress.run before {} = .ok p := by
  obtain ⟨rest, rfl⟩ := hbefore
  obtain ⟨p, hrun, -⟩ := ok_of_bind_eq_ok h
  rw [List.foldlM_append] at hrun
  obtain ⟨q, hq, -⟩ := ok_of_bind_eq_ok hrun
  exact ⟨q, hq⟩

/-- The tokens that are read, with the tags of every engine, are those that the grammar derives as a
body; what is read are the nodes of the derivation, and they are stored as they are. -/
theorem Node.readAll_iff_derives {tokens : List Token} {nodes : List Node} {a : Arena}
    (ha : a.Forest) :
    (Node.readAll TagKind.builtin tokens = .ok nodes ↔ Derives (.body nodes) tokens) ∧
      (Node.readAll TagKind.builtin tokens = .ok nodes →
        (Arena.storeBody nodes a).1.NodesAt
          ((Arena.storeBody nodes a).1.body (Arena.storeBody nodes a).2) nodes) := by
  refine ⟨⟨Node.derives_of_readAll, ?_⟩, ?_⟩
  · intro h
    have hstart : Accepts {} := by simp [Accepts]
    have hrun := h.runs {} hstart
    rw [run] at hrun
    rw [Node.readAll, hrun]
    exact finish_of_unaided (List.forall_mem_nil _)
  · intro h
    exact (Arena.storeBody_spec ha (Node.shapedAll_of_readAll h)).nodesAt

/-- The tokens of a template with a choice inside a loop. -/
def choiceInLoop : List Token :=
  (tokenize {} ("\x7b% for i in list %\x7d\x7b% if i %\x7da\x7b% elsif b %\x7d" ++
    "\x7b\x7b i \x7d\x7d\x7b% else %\x7dc\x7b% endif %\x7d" ++
    "\x7b% else %\x7dd\x7b% endfor %\x7d")).toOption.getD []

/-- A condition in a loop is read and derived. -/
theorem Node.readAll_iff_derives_choiceInLoop : ∃ nodes, Arena.Forest {} ∧
    Node.readAll TagKind.builtin choiceInLoop = .ok nodes ∧
      (Node.readAll TagKind.builtin choiceInLoop = .ok nodes ↔ Derives (.body nodes) choiceInLoop) ∧
      (Node.readAll TagKind.builtin choiceInLoop = .ok nodes →
        (Arena.storeBody nodes {}).1.NodesAt
          ((Arena.storeBody nodes {}).1.body (Arena.storeBody nodes {}).2) nodes) := by
  have hcheck : (Node.readAll TagKind.builtin choiceInLoop).toOption.map List.length = some 1 := by
    decide +kernel
  obtain ⟨nodes, hread, -⟩ := exists_ok_of_map_toOption hcheck
  exact ⟨nodes, Arena.forest_empty, hread, Node.readAll_iff_derives Arena.forest_empty⟩

end Stencil
