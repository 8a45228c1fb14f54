import Stencil.Node.Stream
import Stencil.Proofs.Node.Grammar

/-!
# What happens before a token is taken

Between two tokens only factories do something.  Where no factory reads an open tag
(`Progress.Unaided`), a token is taken as it comes (`Progress.step_of_unaided`), and at the end of
the tokens the innermost open tag is an error (`Progress.finish_of_unaided`).  With tags of which
none has a factory, this is so all along (`Progress.Unaided.steps`).
-/

set_option autoImplicit false

namespace Stencil

/-- A tag that no factory reads. -/
def OpenTag.Unaided (o : OpenTag) : Prop :=
  ∀ factory got, o.pending ≠ .free factory got

/-- Tags of which none has a factory. -/
def WithoutFactories (tags : Dict TagKind) : Prop :=
  ∀ name kind, Dict.find? name tags = some kind → ∀ factory, kind.form ≠ .free factory

/-- None of the registered tags has a factory that reads what is behind it. -/
theorem IsBuiltin.form_ne_free {t : Token} {kind : TagKind} (h : IsBuiltin t kind)
    (factory : Factory) : kind.form ≠ .free factory := by
  rcases h.cases with ⟨hform, -⟩ | ⟨_, hform, -⟩ | ⟨_, hform, -⟩ | ⟨hform, -⟩ | ⟨_, _, hform, -⟩
  all_goals simp [hform]

/-- The tags of every engine have no factories. -/
theorem withoutFactories_builtin : WithoutFactories TagKind.builtin := by
  intro name kind hkind factory
  have hbuiltin : IsBuiltin ⟨.tag, name, "", name, name, {}, false, false⟩ kind := ⟨rfl, hkind⟩
  exact hbuiltin.form_ne_free factory

namespace Progress

/-- No factory reads an open tag. -/
def Unaided (p : Progress) : Prop :=
  ∀ o ∈ p.opened, o.Unaided

/-- The innermost open tag, if there is one, is not read by a factory. -/
def Direct (p : Progress) : Prop :=
  ∀ o ∈ p.opened.head?, o.Unaided

variable {tags : Dict TagKind} {p q : Progress} {t : Token} {e : Error} {opened : List OpenTag}

/-- Where no factory reads a tag, no factory has to be asked. -/
theorem Unaided.direct (h : p.Unaided) : p.Direct :=
  fun o ho => h o (List.mem_of_mem_head? ho)

/-- Nothing is open at first. -/
theorem unaided_start : Unaided {} := by
  simp [Unaided]

/-- Without factories nothing catches an error. -/
theorem recover_of_unaided (h : ∀ o ∈ opened, o.Unaided) (e : Error) :
    recover e opened = .error e := by
  induction opened with
  | nil => rfl
  | cons o outer ih =>
    obtain ⟨ho, houter⟩ := List.forall_mem_cons.1 h
    unfold recover
    split
    · next factory got hfree => exact absurd hfree (ho factory got)
    · exact ih houter

/-- Where no factory reads a tag, no error is handed to one. -/
theorem orRecover_of_unaided (h : ∀ o ∈ opened, o.Unaided) (r : Except Error Progress) :
    orRecover opened r = r := by
  cases r with
  | ok q => rfl
  | error e => exact recover_of_unaided h e

/-- Where no factory reads the innermost tag, nothing happens before the next token. -/
theorem ready_of_direct (h : p.Direct) (t : Token) : p.ready tags t = .ok p := by
  have hturn : p.turn tags (some t) = none := by
    obtain ⟨nodes, opened⟩ := p
    cases opened with
    | nil => rfl
    | cons o outer =>
      unfold turn
      dsimp only
      split
      · next factory got hfree => exact absurd hfree (h o rfl factory got)
      · rfl
  unfold ready callBound
  rw [settle]
  rw [hturn]
  rfl

/-- A token that is read is taken. -/
theorem step_of_read (h : p.Direct) (hread : p.read tags t = .ok q) : p.step tags t = .ok q := by
  unfold step
  rw [ready_of_direct h]
  show orRecover p.opened (p.read tags t) = .ok q
  rw [hread]
  rfl

/-- Without factories a token is taken as it is read. -/
theorem step_of_unaided (h : p.Unaided) (t : Token) : p.step tags t = p.read tags t := by
  unfold step
  rw [ready_of_direct h.direct]
  exact orRecover_of_unaided h _

/-- Without factories nothing may be open at the end of the tokens. -/
theorem finish_of_unaided (h : p.Unaided) : p.finish tags =
    match p.opened with
    | [] => .ok p.nodes
    | o :: _ => .error (.unclosedTag o.opener) := by
  obtain ⟨nodes, opened⟩ := p
  unfold finish callBound
  rw [settle]
  cases opened with
  | nil => rfl
  | cons o outer =>
    have hturn : turn tags none ⟨nodes, o :: outer⟩ = some (.error (.unclosedTag o.opener)) := by
      unfold turn
      dsimp only
      split
      · next factory got hfree => exact absurd hfree (h o (List.mem_cons_self ..) factory got)
      · exact congrArg some (recover_of_unaided h _)
    rw [hturn]
    rfl

/-- Opening a tag that is not read by a factory. -/
theorem Unaided.enter (h : p.Unaided) {opener : Token} {kind : TagKind} {pending : Pending}
    (hpending : ∀ factory got, pending ≠ .free factory got) :
    (p.enter opener kind pending).Unaided :=
  List.forall_mem_cons.2 ⟨hpending, h⟩

section WithoutFactories

variable (htags : WithoutFactories tags)

include htags

/-- A token begins no tag of a factory where none is registered. -/
theorem Unaided.begin (hp : p.Unaided) (h : p.begin tags t = .ok q) : q.Unaided := by
  unfold Progress.begin at h
  split at h
  · cases h
    exact hp
  · obtain ⟨o, -, h⟩ := ok_of_bind_eq_ok h
    cases h
    exact hp
  · split at h
    · cases h
    · next kind hkind =>
      split at h
      · obtain ⟨head, -, h⟩ := ok_of_bind_eq_ok h
        cases h
        exact hp
      · cases h
        exact hp.enter nofun
      · obtain ⟨head, -, h⟩ := ok_of_bind_eq_ok h
        cases h
        exact hp.enter nofun
      · next factory hform => exact absurd hform (htags _ kind hkind factory)

/-- Reading a token asks for no factory. -/
theorem Unaided.read (hp : p.Unaided) (h : p.read tags t = .ok q) : q.Unaided := by
  obtain ⟨nodes, opened⟩ := p
  cases opened with
  | nil => exact hp.begin htags h
  | cons o outer =>
    obtain ⟨ho, houter⟩ := List.forall_mem_cons.1 hp
    unfold Progress.read at h
    dsimp only at h
    split at h
    · split at h
      · obtain ⟨head, -, h⟩ := ok_of_bind_eq_ok h
        cases h
        exact houter
      · cases h
        exact List.forall_mem_cons.2 ⟨nofun, houter⟩
    · split at h
      · cases h
        exact houter
      · split at h
        · obtain ⟨head, -, h⟩ := ok_of_bind_eq_ok h
          cases h
          exact List.forall_mem_cons.2 ⟨nofun, houter⟩
        · split at h
          · cases h
            exact List.forall_mem_cons.2 ⟨nofun, houter⟩
          · exact hp.begin htags h
    · next factory got hfree => exact absurd hfree (ho factory got)

/-- Reading a token opens no tag of a factory where none is registered. -/
theorem Unaided.step (hp : p.Unaided) (h : p.step tags t = .ok q) : q.Unaided := by
  rw [step_of_unaided hp] at h
  exact hp.read htags h

/-- No factory reads anything of some tokens. -/
theorem Unaided.steps {tokens : List Token} (hp : p.Unaided)
    (h : tokens.foldlM (Progress.step tags) p = .ok q) : q.Unaided := by
  induction tokens generalizing p with
  | nil =>
    cases h
    exact hp
  | cons t rest ih =>
    rw [List.foldlM_cons] at h
    obtain ⟨r, hstep, h⟩ := ok_of_bind_eq_ok h
    exact ih (hp.step htags hstep) h

end WithoutFactories

end Progress

end Stencil
