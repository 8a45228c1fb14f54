import Stencil.Proofs.Node.Settling

/-!
# Reading from a stream in pieces

A stream reads all its tokens as the nodes of these tokens are read (`Stream.nodes_eq`).  A body that
it reads ends at the first tag of the wanted names that is asked for outside of every open tag, and
its nodes are those that were read up to there (`Stream.body_eq_ok_iff`); without factories these are
the nodes of the tokens in front of the end (`Stream.body_eq_ok_iff_readAll`).  What a stream takes
unread are the tokens in front of the first tag of a name (`Stream.tokens_eq_ok_iff`).
-/

set_option autoImplicit false

namespace Stencil

namespace Progress

variable {tags : Dict TagKind} {p q : Progress} {t u : Token} {us : List Token} {nodes : List Node}
  {ends : List String}

/-- What was read of some tokens when the one behind them is asked for. -/
def upTo (tags : Dict TagKind) (p : Progress) (us : List Token) (u : Token) :
    Except Error Progress := do
  (← us.foldlM (step tags) p).ready tags u

/-- Behind no token, the next one is asked for at once. -/
theorem upTo_nil : p.upTo tags [] u = p.ready tags u :=
  rfl

/-- The first of some tokens is asked for and taken, and then the others are read. -/
theorem upTo_cons : p.upTo tags (t :: us) u =
    (p.ready tags t).bind fun q => (q.take tags t).bind fun r => r.upTo tags us u := by
  unfold upTo
  rw [List.foldlM_cons]
  unfold step
  cases p.ready tags t with
  | error e => rfl
  | ok q => cases h : q.take tags t <;> simp [bind, Except.bind, h]

/-- Some tokens are the body in front of a tag of one of the given names: the tag is asked for outside
of every open tag, and no tag of these names is before. -/
structure BodyEnds (tags : Dict TagKind) (ends : List String) (p : Progress) (us : List Token)
    (u : Token) (nodes : List Node) : Prop where
  outside : p.upTo tags us u = .ok ⟨nodes, []⟩
  named : ends.any u.isTag = true
  first : ∀ vs v ws, us = vs ++ v :: ws → ends.any v.isTag = true →
    ∀ earlier, p.upTo tags vs v ≠ .ok ⟨earlier, []⟩

/-- A body without tokens. -/
theorem bodyEnds_nil_iff : BodyEnds tags ends p [] u nodes ↔
    p.ready tags u = .ok ⟨nodes, []⟩ ∧ ends.any u.isTag = true := by
  constructor
  · rintro ⟨houtside, hnamed, -⟩
    exact ⟨houtside, hnamed⟩
  · rintro ⟨houtside, hnamed⟩
    refine ⟨houtside, hnamed, ?_⟩
    intro vs v ws hsplit
    simp at hsplit

/-- The first token of a body does not end it, and the others are a body behind it. -/
theorem bodyEnds_cons_iff (hready : p.ready tags t = .ok q) :
    BodyEnds tags ends p (t :: us) u nodes ↔
      ¬ (q.opened = [] ∧ ends.any t.isTag = true) ∧
        ∃ r, q.take tags t = .ok r ∧ BodyEnds tags ends r us u nodes := by
  have hcons (ws : List Token) (v : Token) :
      p.upTo tags (t :: ws) v = (q.take tags t).bind fun r => r.upTo tags ws v := by
    rw [upTo_cons, hready]
    rfl
  constructor
  · rintro ⟨houtside, hnamed, hfirst⟩
    refine ⟨?_, ?_⟩
    · rintro ⟨hopened, ht⟩
      apply hfirst [] t us rfl ht q.nodes
      rw [upTo_nil, hready, ← hopened]
    · rw [hcons] at houtside
      obtain ⟨r, htake, hreads⟩ := ok_of_bind_eq_ok houtside
      refine ⟨r, htake, hreads, hnamed, ?_⟩
      intro vs v ws hsplit hv earlier hearlier
      apply hfirst (t :: vs) v ws (by rw [hsplit]; rfl) hv earlier
      rw [hcons, htake]
      exact hearlier
  · rintro ⟨hgoes, r, htake, houtside, hnamed, hfirst⟩
    refine ⟨?_, hnamed, ?_⟩
    · rw [hcons, htake]
      exact houtside
    · intro vs v ws hsplit hv earlier hearlier
      cases vs with
      | nil =>
        obtain ⟨rfl, -⟩ := List.cons.inj hsplit
        rw [upTo_nil, hready] at hearlier
        cases hearlier
        exact hgoes ⟨rfl, hv⟩
      | cons v' vs =>
        obtain ⟨rfl, hrest⟩ := List.cons.inj hsplit
        rw [hcons, htake] at hearlier
        exact hfirst vs v ws hrest hv earlier hearlier

/-- Nothing is a body behind a token that cannot be read. -/
theorem not_bodyEnds_cons {e : Error} (h : p.step tags t = .error e) :
    ¬ BodyEnds tags ends p (t :: us) u nodes := by
  rintro ⟨houtside, -, -⟩
  unfold upTo at houtside
  rw [List.foldlM_cons, h] at houtside
  cases houtside

/-- Without factories, the tokens in front of one that is asked for outside of every open tag are read
into nodes of their own. -/
theorem upTo_eq_ok_iff_readAll (htags : WithoutFactories tags) :
    upTo tags {} us u = .ok ⟨nodes, []⟩ ↔ Node.readAll tags us = .ok nodes := by
  unfold upTo Node.readAll
  cases hrun : us.foldlM (step tags) ({} : Progress) with
  | error e => exact ⟨nofun, nofun⟩
  | ok p =>
    have hp : p.Unaided := Unaided.steps htags unaided_start hrun
    show p.ready tags u = .ok ⟨nodes, []⟩ ↔ p.finish tags = .ok nodes
    rw [ready_of_direct hp.direct, finish_of_unaided hp]
    obtain ⟨read, opened⟩ := p
    cases opened <;> simp

end Progress

namespace Stream

variable {s s' : Stream} {tags : Dict TagKind} {tokens rest : List Token} {opener t u : Token}
  {nodes : List Node} {ends : List String} {close : String}

/-- Reading tokens one after the other gives their nodes. -/
theorem nodesFrom_eq (tags : Dict TagKind) (p : Progress) (tokens : List Token) :
    (nodesFrom tags p tokens).1 =
      (tokens.foldlM (Progress.step tags) p).bind fun q => q.finish tags := by
  induction tokens generalizing p with
  | nil => rfl
  | cons t rest ih =>
    rw [nodesFrom, List.foldlM_cons]
    unfold Progress.step
    cases p.ready tags t with
    | error e => rfl
    | ok q =>
      dsimp only [bind, Except.bind]
      cases q.take tags t with
      | error e => rfl
      | ok r => exact ih r

/-- A stream reads what is left of its tokens into the nodes of these tokens. -/
theorem nodes_eq (s : Stream) : s.nodes.1 = Node.readAll s.tags s.rest :=
  nodesFrom_eq s.tags {} s.rest

/-- What is in front of an element is nothing, or the first element and what is behind that. -/
theorem exists_front_cons_iff {α : Type} {p : List α → Prop} {a b : α} {l back : List α} :
    (∃ front, a :: l = front ++ b :: back ∧ p front) ↔
      (a = b ∧ l = back) ∧ p [] ∨ ∃ front, l = front ++ b :: back ∧ p (a :: front) := by
  constructor
  · rintro ⟨_ | ⟨c, front⟩, heq, hfront⟩
    · exact .inl ⟨List.cons.inj heq, hfront⟩
    · obtain ⟨rfl, hl⟩ := List.cons.inj heq
      exact .inr ⟨front, hl, hfront⟩
  · rintro (⟨⟨rfl, rfl⟩, hfront⟩ | ⟨front, rfl, hfront⟩)
    · exact ⟨[], rfl, hfront⟩
    · exact ⟨a :: front, rfl, hfront⟩

/-- A body is read from some tokens up to the tag that ends it. -/
theorem bodyFrom_eq_ok_iff {p : Progress} :
    bodyFrom tags opener ends p tokens = (.ok (nodes, u), rest) ↔
      ∃ us, tokens = us ++ u :: rest ∧ p.BodyEnds tags ends us u nodes := by
  induction tokens generalizing p with
  | nil => simp [bodyFrom]
  | cons t tokens ih =>
    rw [exists_front_cons_iff, bodyFrom, Progress.bodyEnds_nil_iff]
    cases hready : p.ready tags t with
    | error e =>
      have hstep : p.step tags t = .error e := by
        unfold Progress.step
        rw [hready]
        rfl
      constructor
      · rintro ⟨⟩
      · rintro (⟨⟨rfl, -⟩, houtside, -⟩ | ⟨us, -, hbody⟩)
        · rw [hready] at houtside
          cases houtside
        · exact absurd hbody (Progress.not_bodyEnds_cons hstep)
    | ok q =>
      simp only [Progress.bodyEnds_cons_iff hready]
      by_cases hstop : q.opened = [] ∧ ends.any t.isTag = true
      · -- the token ends the body
        obtain ⟨read, opened⟩ := q
        obtain ⟨rfl, hnamed⟩ : opened = [] ∧ _ := hstop
        simp only [List.isEmpty_nil, hnamed, Bool.and_self, if_true]
        constructor
        · rintro ⟨⟩
          exact .inl ⟨⟨rfl, rfl⟩, hready, hnamed⟩
        · rintro (⟨⟨rfl, rfl⟩, houtside, -⟩ | ⟨us, -, hgoes, -⟩)
          · rw [hready] at houtside
            cases houtside
            rfl
          · exact absurd ⟨trivial, trivial⟩ hgoes
      · -- the token is one of the body
        have hgoes : (q.opened.isEmpty && ends.any t.isTag) = false := by
          rw [Bool.eq_false_iff]
          simpa [List.isEmpty_iff] using hstop
        have hhere : ¬ ((t = u ∧ tokens = rest) ∧
            p.ready tags u = .ok ⟨nodes, []⟩ ∧ ends.any u.isTag = true) := by
          rintro ⟨⟨rfl, -⟩, houtside, hnamed⟩
          rw [hready] at houtside
          cases houtside
          exact hstop ⟨rfl, hnamed⟩
        rw [hgoes]
        simp only [hhere, hstop, not_false_eq_true, true_and, false_or]
        cases htake : q.take tags t with
        | error e => simp
        | ok r =>
          show bodyFrom tags opener ends r tokens = _ ↔ _
          simp [ih]

/-- A stream reads a body up to the tag that ends it, which is the first of the wanted ones that is
asked for outside of every open tag. -/
theorem body_eq_ok_iff : s.body opener ends = (.ok (nodes, u), s') ↔
    ∃ us rest, s.rest = us ++ u :: rest ∧ s' = { s with rest := rest } ∧
      Progress.BodyEnds s.tags ends {} us u nodes := by
  unfold body
  cases hbody : bodyFrom s.tags opener ends {} s.rest with
  | mk r rest =>
    dsimp only
    constructor
    · rintro ⟨⟩
      obtain ⟨us, hrest, hends⟩ := bodyFrom_eq_ok_iff.1 hbody
      exact ⟨us, rest, hrest, rfl, hends⟩
    · rintro ⟨us, rest', hrest, rfl, hends⟩
      rw [bodyFrom_eq_ok_iff.2 ⟨us, hrest, hends⟩] at hbody
      cases hbody
      rfl

/-- Without factories, a stream reads a body into the nodes of the shortest part of its tokens that is
read into nodes and stands in front of a tag of the wanted ones. -/
theorem body_eq_ok_iff_readAll (htags : WithoutFactories s.tags) :
    s.body opener ends = (.ok (nodes, u), s') ↔
      ∃ us rest, s.rest = us ++ u :: rest ∧ s' = { s with rest := rest } ∧
        Node.readAll s.tags us = .ok nodes ∧ ends.any u.isTag = true ∧
        ∀ vs v ws, us = vs ++ v :: ws → ends.any v.isTag = true →
          ∀ earlier, Node.readAll s.tags vs ≠ .ok earlier := by
  have hends (us : List Token) : Progress.BodyEnds s.tags ends {} us u nodes ↔
      Node.readAll s.tags us = .ok nodes ∧ ends.any u.isTag = true ∧
        ∀ vs v ws, us = vs ++ v :: ws → ends.any v.isTag = true →
          ∀ earlier, Node.readAll s.tags vs ≠ .ok earlier := by
    constructor
    · rintro ⟨houtside, hnamed, hfirst⟩
      refine ⟨(Progress.upTo_eq_ok_iff_readAll htags).1 houtside, hnamed, ?_⟩
      intro vs v ws hsplit hv earlier hearlier
      exact hfirst vs v ws hsplit hv earlier ((Progress.upTo_eq_ok_iff_readAll htags).2 hearlier)
    · rintro ⟨hreads, hnamed, hfirst⟩
      refine ⟨(Progress.upTo_eq_ok_iff_readAll htags).2 hreads, hnamed, ?_⟩
      intro vs v ws hsplit hv earlier hearlier
      exact hfirst vs v ws hsplit hv earlier ((Progress.upTo_eq_ok_iff_readAll htags).1 hearlier)
  simp only [body_eq_ok_iff, hends]

/-- Tokens are taken, behind those taken so far, up to the first tag of a name. -/
theorem tokensFrom_eq_ok_iff {claimed claimed' : List Token} :
    tokensFrom opener close claimed tokens = (.ok claimed', rest) ↔
      ∃ us u, tokens = us ++ u :: rest ∧ claimed' = claimed ++ us ∧ u.isTag close = true ∧
        ∀ v ∈ us, v.isTag close = false := by
  induction tokens generalizing claimed with
  | nil => simp [tokensFrom]
  | cons t tokens ih =>
    rw [tokensFrom]
    by_cases hclose : t.isTag close = true
    · rw [if_pos hclose]
      constructor
      · rintro ⟨⟩
        exact ⟨[], t, rfl, (List.append_nil _).symm, hclose, by simp⟩
      · rintro ⟨_ | ⟨v, us⟩, u, heq, rfl, -, hnot⟩
        · obtain ⟨rfl, rfl⟩ := List.cons.inj heq
          rw [List.append_nil]
        · obtain ⟨rfl, -⟩ := List.cons.inj heq
          rw [hnot t (List.mem_cons_self ..)] at hclose
          cases hclose
    · rw [if_neg hclose, ih]
      constructor
      · rintro ⟨us, u, rfl, rfl, hu, hnot⟩
        refine ⟨t :: us, u, rfl, (List.append_cons ..).symm, hu, ?_⟩
        exact List.forall_mem_cons.2 ⟨Bool.eq_false_iff.2 hclose, hnot⟩
      · rintro ⟨_ | ⟨v, us⟩, u, heq, rfl, hu, hnot⟩
        · obtain ⟨rfl, -⟩ := List.cons.inj heq
          exact absurd hu hclose
        · obtain ⟨rfl, rfl⟩ := List.cons.inj heq
          exact ⟨us, u, rfl, List.append_cons .., hu, fun v hv => hnot v (List.mem_cons_of_mem _ hv)⟩

/-- What a stream takes unread are the tokens in front of the first tag of a name. -/
theorem tokens_eq_ok_iff {claimed : List Token} :
    s.tokens opener close = (.ok claimed, s') ↔
      ∃ u rest, s.rest = claimed ++ u :: rest ∧ s' = { s with rest := rest } ∧
        u.isTag close = true ∧ ∀ v ∈ claimed, v.isTag close = false := by
  unfold tokens
  cases htokens : tokensFrom opener close [] s.rest with
  | mk r rest =>
    dsimp only
    constructor
    · rintro ⟨⟩
      obtain ⟨us, u, hrest, rfl, hu, hnot⟩ := tokensFrom_eq_ok_iff.1 htokens
      exact ⟨u, rest, hrest, rfl, hu, hnot⟩
    · rintro ⟨u, rest', hrest, rfl, hu, hnot⟩
      rw [tokensFrom_eq_ok_iff.2 ⟨claimed, u, hrest, rfl, hu, hnot⟩] at htokens
      cases htokens
      rfl

end Stream

end Stencil
