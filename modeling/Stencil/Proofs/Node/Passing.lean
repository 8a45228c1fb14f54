import Stencil.Tag.Extra
import Stencil.Proofs.Node.Settling

/-!
# Factories that pass failures on

A factory that is told that a node could not be read may go on and make its tag all the same.  Most do
not: whatever they do then, no tag comes of it (`Factory.PassesOn`).  With such factories, a failure
that is told to one of them dooms all that is read (`Progress.Doomed`), as the factory fails at last
and so do those around it.  What ends without an error was not doomed, then, and further tags make no
difference to it, as no factory asks for a tag (`Node.readAll_of_more`).
-/

set_option autoImplicit false

namespace Stencil

/-- Every key is bound in the second map as in the first one. -/
def Dict.Sub {α : Type} (d d' : Dict α) : Prop :=
  ∀ key value, Dict.find? key d = some value → Dict.find? key d' = some value

namespace Dict.Sub

variable {α : Type} {d d' d'' : Dict α}

/-- A map is a part of itself. -/
theorem refl (d : Dict α) : Sub d d :=
  fun _ _ h => h

/-- A part of a part is a part. -/
theorem trans (h : Sub d d') (h' : Sub d' d'') : Sub d d'' :=
  fun key value hkey => h' key value (h key value hkey)

/-- Binding a new key. -/
theorem insert {key : String} (h : Dict.contains key d = false) (value : α) :
    Sub d (Dict.insert key value d) := by
  intro other v hother
  have hne : other ≠ key := by
    rintro rfl
    simp [Dict.contains, hother] at h
  rw [Dict.find?_insert_of_ne hne, hother]

end Dict.Sub

namespace Factory

variable {factory : Factory} {t : Token} {got : List Answer} {e : Error}

/-- A factory may still make a tag, behind the answers that it got. -/
inductive Makes (factory : Factory) (t : Token) : List Answer → Prop
  | done {got : List Answer} {made : Made} (h : factory t got = .done made) : Makes factory t got
  | next {got : List Answer} (h : factory t got = .next) (u : Option Token)
      (hrest : Makes factory t (got ++ [.token u])) : Makes factory t got
  | peek {got : List Answer} (h : factory t got = .peek) (u : Option Token)
      (hrest : Makes factory t (got ++ [.token u])) : Makes factory t got
  | node {got : List Answer} {u : Token} (h : factory t got = .node u) (r : Except Error Node)
      (hrest : Makes factory t (got ++ [.node r])) : Makes factory t got

/-- A factory makes no tag once a node that it asked for could not be read. -/
def PassesOn (factory : Factory) : Prop :=
  ∀ t got u e, factory t got = .node u → ¬ factory.Makes t (got ++ [.node (.error e)])

/-- A factory that fails makes no tag. -/
theorem not_makes_of_fail (h : factory t got = .fail e) : ¬ factory.Makes t got := by
  rintro (hmove | ⟨hmove, -⟩ | ⟨hmove, -⟩ | ⟨hmove, -⟩)
  all_goals rw [h] at hmove; cases hmove

/-- A factory that asks for no nodes. -/
theorem passesOn_of_never (h : ∀ t got u, factory t got ≠ .node u) : factory.PassesOn :=
  fun t got u _ hnode => absurd hnode (h t got u)

/-- A factory that fails as soon as a node could not be read. -/
theorem passesOn_of_fails (h : ∀ t got u e, factory t got = .node u →
    ∃ e', factory t (got ++ [.node (.error e)]) = .fail e') : factory.PassesOn := by
  intro t got u e hnode
  obtain ⟨e', hfail⟩ := h t got u e hnode
  exact not_makes_of_fail hfail

/-- A tag that stands alone has no nodes. -/
theorem passesOn_alone (made : Token → Except ParseFault Made) : (alone made).PassesOn := by
  apply passesOn_of_never
  intro t got u h
  unfold alone at h
  split at h <;> cases h

/-- A tag fails with what is inside its bodies. -/
theorem passesOn_bodies (again : List String) (close : String)
    (made : Token → Except ParseFault (List (List Nat) → Made)) :
    (bodies again close made).PassesOn := by
  apply passesOn_of_fails
  intro t got u e h
  unfold bodies at h ⊢
  split at h
  · cases h
  · exact ⟨e, by simp⟩

/-- A tag whose body is left unread has no nodes. -/
theorem passesOn_unread (close : String) (made : List Token → Made) :
    (unread close made).PassesOn := by
  apply passesOn_of_never
  intro t got u h
  unfold unread at h
  split at h
  · cases h
  · split at h <;> cases h
  · cases h

/-- A tag that takes a literal has no nodes. -/
theorem passesOn_literal (made : Option String → Made) : (literal made).PassesOn := by
  apply passesOn_of_never
  intro t got u h
  unfold literal at h
  split at h
  · cases h
  · split at h <;> cases h
  · cases h

/-- The further tags all pass failures on. -/
theorem passesOn_of_ofWord? {w : String} (h : ofWord? w = some factory) : factory.PassesOn := by
  unfold ofWord? at h
  split at h
  all_goals cases h
  all_goals
    first
    | exact passesOn_alone _
    | exact passesOn_bodies _ _ _
    | exact passesOn_unread _ _
    | exact passesOn_literal _

end Factory

/-- Tags all of whose factories pass failures on. -/
def PassOn (tags : Dict TagKind) : Prop :=
  ∀ name factory, Dict.find? name tags = some (.custom factory) → factory.PassesOn

/-- Only tags that have a factory are read by one. -/
theorem TagKind.eq_custom_of_form {kind : TagKind} {factory : Factory}
    (h : kind.form = .free factory) : kind = .custom factory := by
  cases kind <;> cases h
  rfl

/-- Tags without factories pass on whatever fails. -/
theorem WithoutFactories.passOn {tags : Dict TagKind} (h : WithoutFactories tags) : PassOn tags :=
  fun name factory hkind => absurd rfl (h name _ hkind factory)

/-- Adding a tag whose factory passes failures on, if it has one. -/
theorem PassOn.insert {tags : Dict TagKind} (h : PassOn tags) (name : String) {kind : TagKind}
    (hkind : ∀ factory, kind = .custom factory → factory.PassesOn) :
    PassOn (Dict.insert name kind tags) := by
  intro other factory hother
  by_cases hname : other = name
  · rw [hname, Dict.find?_insert_self] at hother
    exact hkind factory (Option.some.inj hother)
  · rw [Dict.find?_insert_of_ne hname] at hother
    exact h other factory hother

namespace Progress

/-- Some nodes were read inside of open tags, and each factory that reads one of the tags passes failures
on and still waits for a node that it asked for. -/
def Waiting : List Node → List OpenTag → Prop
  | _, [] => True
  | nodes, o :: outer =>
    (∀ factory got, o.pending = .free factory got →
      factory.PassesOn ∧ nodes = [] ∧ ∃ u, factory o.opener got = .node u) ∧
    Waiting o.before outer

/-- The same, except that the innermost factory need not wait, or has got the node. -/
def Passing (p : Progress) : Prop :=
  match p.opened with
  | [] => True
  | o :: outer =>
    (∀ factory got, o.pending = .free factory got → factory.PassesOn ∧
      (p.nodes = [] ∨ ∃ n u, p.nodes = [n] ∧ factory o.opener got = .node u)) ∧
    Waiting o.before outer

/-- One of the factories that read open tags makes no tag any more. -/
def DoomedIn : List Node → List OpenTag → Prop
  | _, [] => False
  | nodes, o :: outer =>
    (∃ factory got, o.pending = .free factory got ∧
      ¬ factory.Makes o.opener (answers got nodes)) ∨
    DoomedIn o.before outer

/-- Nothing comes of some progress. -/
def Doomed (p : Progress) : Prop :=
  DoomedIn p.nodes p.opened

/-- What comes of some progress with some tags and with more of them.  It passes failures on, and it is
the same unless it is doomed, as it is whenever the progress was doomed already. -/
def Leads (doomed : Prop) (r r' : Except Error Progress) : Prop :=
  ∀ q, r = .ok q → q.Passing ∧ (q.Doomed ∨ ¬ doomed ∧ r' = .ok q)

variable {tags tags' : Dict TagKind} {next : Option Token} {p q : Progress} {t : Token} {e : Error}
  {o : OpenTag} {outer opened : List OpenTag} {nodes : List Node} {n : Node} {factory : Factory}
  {got : List Answer} {r r' : Except Error Progress} {doomed : Prop}

/-- Without a node, nothing is added to the answers. -/
theorem answers_nil (got : List Answer) : answers got [] = got :=
  List.append_nil got

/-- A factory that waits for its node has got it once there is one. -/
theorem Waiting.add (h : Waiting nodes opened) (n : Node) : Passing ⟨nodes ++ [n], opened⟩ := by
  cases opened with
  | nil => trivial
  | cons o outer =>
    refine ⟨?_, h.2⟩
    intro factory got hfree
    obtain ⟨hpasses, rfl, u, hu⟩ := h.1 factory got hfree
    exact ⟨hpasses, .inr ⟨n, u, rfl, hu⟩⟩

/-- A tag that is opened inside of others may have a factory, which has done nothing yet. -/
theorem Waiting.enter (h : Waiting p.nodes p.opened) {opener : Token} {kind : TagKind}
    {pending : Pending} (hpending : ∀ factory got, pending = .free factory got → factory.PassesOn) :
    (p.enter opener kind pending).Passing :=
  ⟨fun factory got hfree => ⟨hpending factory got hfree, .inl rfl⟩, h⟩

/-- Another node does not help a factory that makes no tag. -/
theorem DoomedIn.add (h : DoomedIn nodes opened) (hwaiting : Waiting nodes opened) (n : Node) :
    DoomedIn (nodes ++ [n]) opened := by
  cases opened with
  | nil => exact h
  | cons o outer =>
    refine h.imp_left ?_
    rintro ⟨factory, got, hfree, hnever⟩
    obtain ⟨-, rfl, u, hu⟩ := hwaiting.1 factory got hfree
    rw [answers_nil] at hnever
    exact ⟨factory, got, hfree, fun hmakes => hnever (.node hu (.ok n) hmakes)⟩

/-- What is the same with more tags. -/
theorem leads_pure (hq : q.Passing) (hdoomed : doomed → q.Doomed) :
    Leads doomed (pure q) (pure q) := by
  rintro _ ⟨⟩
  refine ⟨hq, ?_⟩
  by_cases h : doomed
  · exact .inl (hdoomed h)
  · exact .inr ⟨h, rfl⟩

/-- Nothing comes of an error. -/
theorem leads_error (e : Error) : Leads doomed (.error e) r' := by
  rintro _ ⟨⟩

/-- A step behind another one. -/
theorem leads_bind {f f' : Progress → Except Error Progress} (hr : Leads doomed r r')
    (hf : ∀ q, r = .ok q → q.Passing → Leads q.Doomed (f q) (f' q)) :
    Leads doomed (r >>= f) (r' >>= f') := by
  intro u hu
  obtain ⟨q, rfl, hu⟩ := ok_of_bind_eq_ok hu
  obtain ⟨hq, hsame⟩ := hr q rfl
  obtain ⟨hpassing, hu'⟩ := hf q rfl hq u hu
  refine ⟨hpassing, ?_⟩
  obtain hdoomed | ⟨hfine, hu'⟩ := hu'
  · exact .inl hdoomed
  · obtain hdoomed | ⟨hnot, rfl⟩ := hsame
    · exact absurd hdoomed hfine
    · exact .inr ⟨hnot, hu'⟩

/-- A tag that no factory reads waits for nothing. -/
theorem Waiting.cons (ho : o.Unaided) (h : Waiting o.before outer) : Waiting nodes (o :: outer) :=
  ⟨fun factory got hfree => absurd hfree (ho factory got), h⟩

/-- Where no factory reads the innermost tag, it is one of those around it that makes no tag. -/
theorem DoomedIn.tail (h : DoomedIn nodes (o :: outer)) (ho : o.Unaided) :
    DoomedIn o.before outer := by
  obtain ⟨factory, got, hfree, -⟩ | h := h
  · exact absurd hfree (ho factory got)
  · exact h

/-- A tag that no factory reads is closed. -/
theorem leads_leave (h : Waiting o.before outer) (hdoomed : doomed → DoomedIn o.before outer)
    (head : Head) (bodies : List (List Node)) :
    Leads doomed (pure (leave o outer head bodies)) (pure (leave o outer head bodies)) :=
  leads_pure (h.add _) fun hd => (hdoomed hd).add h _

/-- A tag that no factory reads waits for something else. -/
theorem leads_replace (ho : o.Unaided) (h : Waiting o.before outer)
    (hdoomed : doomed → DoomedIn o.before outer) :
    Leads doomed (pure ⟨nodes, o :: outer⟩) (pure ⟨nodes, o :: outer⟩) :=
  leads_pure ⟨fun factory got hfree => absurd hfree (ho factory got), h⟩ fun hd => .inr (hdoomed hd)

/-- A factory that got further answers makes no tag if it would have made none, unless the answers
help. -/
theorem leads_told (hp : Passing ⟨nodes, o :: outer⟩) (hfree : o.pending = .free factory got)
    {more : List Answer}
    (hmakes : factory.Makes o.opener more → factory.Makes o.opener (answers got nodes)) :
    Leads (Doomed ⟨nodes, o :: outer⟩)
      (pure ⟨[], { o with pending := .free factory more } :: outer⟩)
      (pure ⟨[], { o with pending := .free factory more } :: outer⟩) := by
  apply leads_pure
  · refine ⟨?_, hp.2⟩
    rintro _ _ ⟨⟩
    exact ⟨(hp.1 factory got hfree).1, .inl rfl⟩
  · refine Or.imp_left ?_
    rintro ⟨_, _, hfree', hnever⟩
    rw [hfree] at hfree'
    cases hfree'
    refine ⟨factory, _, rfl, ?_⟩
    rw [answers_nil]
    exact fun h => hnever (hmakes h)

/-- A factory that is told of a failure makes no tag, and so all is doomed. -/
theorem leads_recover (h : Waiting nodes opened) : Leads doomed (recover e opened) r' := by
  induction opened generalizing nodes with
  | nil => exact leads_error e
  | cons o outer ih =>
    unfold recover
    split
    · next factory got hfree =>
      obtain ⟨hpasses, -, u, hu⟩ := h.1 factory got hfree
      have hnever : ¬ factory.Makes o.opener (answers (got ++ [.node (.error e)]) []) := by
        rw [answers_nil]
        exact hpasses o.opener got u e hu
      rintro _ ⟨⟩
      refine ⟨⟨?_, h.2⟩, .inl (.inl ⟨factory, _, rfl, hnever⟩)⟩
      rintro _ _ ⟨⟩
      exact ⟨hpasses, .inl rfl⟩
    · exact ih h.2

/-- A step leads on also where a factory may be told of its failure. -/
theorem leads_orRecover (h : Waiting nodes opened) (hr : Leads doomed r r') :
    Leads doomed (orRecover opened r) (orRecover opened r') := by
  cases r with
  | error e => exact leads_recover h
  | ok q =>
    rintro _ ⟨⟩
    refine (hr q rfl).imp_right (Or.imp_right ?_)
    rintro ⟨hnot, rfl⟩
    exact ⟨hnot, rfl⟩

/-- Where nothing happens before the next token, nothing happens with other tags either. -/
theorem turn_eq_none (tags' : Dict TagKind) (h : p.turn tags next = none) :
    p.turn tags' next = none := by
  unfold turn at h ⊢
  split at h
  · rfl
  · split at h
    · dsimp only at h ⊢
      split at h
      · split at h
        · next hnext => exact if_pos hnext
        · cases h
      all_goals cases h
    · split at h
      · next hnext => exact if_pos hnext
      · cases h

/-- Where factories have come to ask for the next token, nothing else happens before it. -/
theorem turn_of_settle {n : Nat} (h : p.settle tags next n = .ok q) : q.turn tags next = none := by
  induction n generalizing p with
  | zero => cases h
  | succ n ih =>
    unfold settle at h
    split at h
    · next hturn =>
      cases h
      exact hturn
    · obtain ⟨p', -, h⟩ := ok_of_bind_eq_ok h
      exact ih h

/-- At the end of the tokens, something happens to any open tag. -/
theorem opened_of_turn (h : p.turn tags none = none) : p.opened = [] := by
  unfold turn at h
  split at h
  · assumption
  · split at h
    · dsimp only at h
      split at h <;> cases h
    · cases h

/-- A factory takes a token that it asked for. -/
theorem next_of_turn (hfree : o.pending = .free factory got)
    (h : turn tags (some t) ⟨nodes, o :: outer⟩ = none) :
    factory o.opener (answers got nodes) = .next := by
  unfold turn at h
  dsimp only at h
  rw [hfree] at h
  dsimp only at h
  split at h
  · next hmove => exact hmove
  all_goals cases h

section Tags

variable (htags : PassOn tags) (hmore : Dict.Sub tags tags')

include htags hmore

/-- A token that is begun leads to the same with more tags, or to an error without them. -/
theorem leads_begin (hp : Waiting p.nodes p.opened) :
    Leads p.Doomed (p.begin tags t) (p.begin tags' t) := by
  have add (n : Node) : Leads p.Doomed (pure (p.add n)) (pure (p.add n)) :=
    leads_pure (hp.add n) fun hdoomed => hdoomed.add hp n
  have enter (kind : TagKind) (pending : Pending)
      (hpending : ∀ factory got, pending = .free factory got → factory.PassesOn) :
      Leads p.Doomed (pure (p.enter t kind pending)) (pure (p.enter t kind pending)) :=
    leads_pure (hp.enter hpending) .inr
  unfold Progress.begin
  cases t.kind with
  | literal => exact add _
  | output =>
    cases ExprFault.inToken t (Output.read t.value) with
    | error e => exact leads_error e
    | ok o => exact add _
  | tag =>
    dsimp only
    cases hkind : Dict.find? t.name tags with
    | none => exact leads_error _
    | some kind =>
      rw [hmore _ _ hkind]
      dsimp only
      cases hform : kind.form with
      | single =>
        cases kind.head t [] with
        | error e => exact leads_error e
        | ok head => exact add _
      | verbatim close => exact enter kind _ (by rintro _ _ ⟨⟩)
      | body again last close =>
        cases kind.head t [] with
        | error e => exact leads_error e
        | ok head => exact enter kind _ (by rintro _ _ ⟨⟩)
      | free factory =>
        rw [TagKind.eq_custom_of_form hform] at hkind
        apply enter kind
        rintro _ _ ⟨⟩
        exact htags _ factory hkind

/-- A token inside a tag that no factory reads leads to the same with more tags. -/
theorem leads_read (ho : o.Unaided) (houter : Waiting o.before outer) :
    Leads (DoomedIn nodes (o :: outer)) (Progress.read tags ⟨nodes, o :: outer⟩ t)
      (Progress.read tags' ⟨nodes, o :: outer⟩ t) := by
  have hdoomed (hd : DoomedIn nodes (o :: outer)) : DoomedIn o.before outer := hd.tail ho
  unfold Progress.read
  dsimp only
  split
  · split
    · cases o.kind.head o.opener _ with
      | error e => exact leads_error e
      | ok head => exact leads_leave houter hdoomed head []
    · exact leads_replace (by rintro _ _ ⟨⟩) houter hdoomed
  · next head complete again last close _ =>
    split
    · exact leads_leave houter hdoomed head _
    · split
      · cases head.again t with
        | error e => exact leads_error e
        | ok next => exact leads_replace (by rintro _ _ ⟨⟩) houter hdoomed
      · split
        · exact leads_replace (by rintro _ _ ⟨⟩) houter hdoomed
        · have hwaiting : Waiting nodes (o :: outer) := .cons ho houter
          exact leads_begin htags hmore hwaiting
  · next factory got hfree => exact absurd hfree (ho factory got)

/-- A token that is taken leads to the same with more tags. -/
theorem leads_take (hp : p.Passing) (hturn : p.turn tags (some t) = none) :
    Leads p.Doomed (p.take tags t) (p.take tags' t) := by
  obtain ⟨nodes, opened⟩ := p
  cases opened with
  | nil =>
    have hwaiting : Waiting nodes [] := trivial
    exact leads_orRecover hwaiting (leads_begin htags hmore hwaiting)
  | cons o outer =>
    have houter : Waiting o.before outer := hp.2
    by_cases ho : o.Unaided
    · have hwaiting : Waiting nodes (o :: outer) := .cons ho houter
      exact leads_orRecover hwaiting (leads_read htags hmore ho houter)
    · -- a factory takes the token itself
      obtain ⟨factory, got, hfree⟩ : ∃ factory got, o.pending = .free factory got := by
        simpa [OpenTag.Unaided] using ho
      have hmove := next_of_turn hfree hturn
      unfold take Progress.read
      dsimp only
      rw [hfree]
      exact leads_told hp hfree (.next hmove (some t))

/-- What a factory does before the next token leads to the same with more tags, by its call. -/
theorem leads_turn_free (hp : Passing ⟨nodes, o :: outer⟩) (hfree : o.pending = .free factory got)
    (h : turn tags next ⟨nodes, o :: outer⟩ = some r) :
    ∃ r', turn tags' next ⟨nodes, o :: outer⟩ = some r' ∧
      Leads (Doomed ⟨nodes, o :: outer⟩) r r' := by
  unfold turn at h ⊢
  dsimp only at h ⊢
  rw [hfree] at h ⊢
  dsimp only at h ⊢
  cases hmove : factory o.opener (answers got nodes) with
  | next =>
    rw [hmove] at h
    dsimp only at h ⊢
    split at h
    · cases h
    · next hend =>
      cases h
      exact ⟨_, if_neg hend, leads_told hp hfree (.next hmove none)⟩
  | peek =>
    rw [hmove] at h
    cases h
    exact ⟨_, rfl, leads_told hp hfree (.peek hmove next)⟩
  | node u =>
    rw [hmove] at h
    cases h
    have hwaiting : Waiting [] ({ o with pending := .free factory (answers got nodes) } :: outer) := by
      refine ⟨?_, hp.2⟩
      rintro _ _ ⟨⟩
      exact ⟨(hp.1 factory got hfree).1, rfl, u, hmove⟩
    -- it is doomed if it was, as no answer has been added yet
    have htold := (leads_told hp hfree id _ rfl).2
    refine ⟨_, rfl, leads_orRecover hwaiting ?_⟩
    intro q hq
    refine (leads_begin htags hmore hwaiting q hq).imp_right ?_
    rintro (hdoomed | ⟨hnot, hsame⟩)
    · exact .inl hdoomed
    · exact .inr ⟨(htold.resolve_left hnot).1, hsame⟩
  | done made =>
    rw [hmove] at h
    cases h
    refine ⟨_, rfl, leads_pure (hp.2.add _) ?_⟩
    rintro (⟨_, _, hfree', hnever⟩ | hdoomed)
    · rw [hfree] at hfree'
      cases hfree'
      exact absurd (.done hmove) hnever
    · exact hdoomed.add hp.2 _
  | fail e =>
    rw [hmove] at h
    cases h
    exact ⟨_, rfl, leads_recover hp.2⟩

/-- What happens before the next token leads to the same with more tags. -/
theorem leads_turn (hp : p.Passing) (h : p.turn tags next = some r) :
    ∃ r', p.turn tags' next = some r' ∧ Leads p.Doomed r r' := by
  obtain ⟨nodes, opened⟩ := p
  cases opened with
  | nil => cases h
  | cons o outer =>
    cases hpending : o.pending with
    | free factory got => exact leads_turn_free htags hmore hp hpending h
    | verbatim | body =>
      -- the tag is left open at the end of the tokens
      have ho : o.Unaided := by
        intro factory got hfree
        rw [hpending] at hfree
        cases hfree
      have hwaiting : Waiting nodes (o :: outer) := .cons ho hp.2
      unfold turn at h ⊢
      dsimp only at h ⊢
      rw [hpending] at h ⊢
      dsimp only at h ⊢
      split at h
      · cases h
      · next hend =>
        cases h
        exact ⟨_, if_neg hend, leads_recover hwaiting⟩

/-- What factories do before the next token leads to the same with more tags. -/
theorem leads_settle (hp : p.Passing) (n : Nat) :
    Leads p.Doomed (p.settle tags next n) (p.settle tags' next n) := by
  induction n generalizing p with
  | zero => exact leads_error _
  | succ n ih =>
    unfold settle
    cases hturn : p.turn tags next with
    | none =>
      rw [turn_eq_none tags' hturn]
      exact leads_pure hp id
    | some r =>
      obtain ⟨r', hturn', hr⟩ := leads_turn htags hmore hp hturn
      rw [hturn']
      exact leads_bind hr fun _ _ hq => ih hq

/-- A token leads to the same with more tags. -/
theorem leads_step (hp : p.Passing) (t : Token) :
    Leads p.Doomed (p.step tags t) (p.step tags' t) :=
  leads_bind (leads_settle htags hmore hp callBound) fun _ hready hq =>
    leads_take htags hmore hq (turn_of_settle hready)

/-- Some tokens lead to the same with more tags. -/
theorem leads_steps (hp : p.Passing) (tokens : List Token) :
    Leads p.Doomed (tokens.foldlM (step tags) p) (tokens.foldlM (step tags') p) := by
  induction tokens generalizing p with
  | nil => exact leads_pure hp id
  | cons t rest ih =>
    rw [List.foldlM_cons, List.foldlM_cons]
    exact leads_bind (leads_step htags hmore hp t) fun _ _ hq => ih hq

/-- What is read to the end of the tokens, when nothing is open any more, is so with more tags. -/
theorem Leads.finish (hr : Leads doomed r r')
    (h : (r.bind fun p => p.finish tags) = .ok nodes) :
    (r'.bind fun p => p.finish tags') = .ok nodes := by
  obtain ⟨p, hp, hfinish⟩ := ok_of_bind_eq_ok h
  obtain ⟨q, hsettle, hnodes⟩ := ok_of_bind_eq_ok hfinish
  have hsettled : Leads doomed (r >>= fun p => p.settle tags none callBound)
      (r' >>= fun p => p.settle tags' none callBound) :=
    leads_bind hr fun _ _ hq => leads_settle htags hmore hq callBound
  have hq : (r >>= fun p => p.settle tags none callBound) = .ok q := by
    rw [hp]
    exact hsettle
  obtain ⟨-, hdoomed | ⟨-, hsame⟩⟩ := hsettled q hq
  · rw [Doomed, opened_of_turn (turn_of_settle hsettle)] at hdoomed
    cases hdoomed
  · obtain ⟨p', rfl, hsettle'⟩ := ok_of_bind_eq_ok hsame
    show (p'.finish tags') = _
    unfold Progress.finish
    rw [hsettle']
    exact hnodes

end Tags

end Progress

/-- A token alone is begun and read to its end. -/
theorem Stream.node_single (tags : Dict TagKind) (t : Token) :
    (node { tags := tags, rest := [] } t).1 =
      (Progress.begin tags {} t).bind fun p => p.finish tags := by
  unfold node
  dsimp only
  cases Progress.begin tags {} t with
  | error e => rfl
  | ok p => simp only [nodeFrom, Except.bind]

section Tags

variable {tags tags' : Dict TagKind} (htags : PassOn tags) (hmore : Dict.Sub tags tags')
  {nodes : List Node}

include htags hmore

/-- The nodes of some tokens are the same with more tags. -/
theorem Node.readAll_of_more {tokens : List Token} (h : readAll tags tokens = .ok nodes) :
    readAll tags' tokens = .ok nodes := by
  have hstart : Progress.Passing {} := trivial
  exact (Progress.leads_steps htags hmore hstart tokens).finish htags hmore h

/-- The nodes of a single token are the same with more tags. -/
theorem Stream.node_of_more {t : Token}
    (h : (node { tags := tags, rest := [] } t).1 = .ok nodes) :
    (node { tags := tags', rest := [] } t).1 = .ok nodes := by
  have hstart : Progress.Waiting [] [] := trivial
  rw [Stream.node_single] at h ⊢
  exact (Progress.leads_begin htags hmore hstart).finish htags hmore h

end Tags

end Stencil
