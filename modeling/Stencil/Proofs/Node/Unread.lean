import Mathlib.Data.List.Induction
import Stencil.Proofs.Node.Parsing

/-!
# Tokens that are left unread

A tag `raw` or `comment` takes the tokens up to the tag that closes it as they are.  Tokens end either
outside of what is left unread in this way (`Outside`) or inside of it (`Unclosed`), and a walk over
them that remembers no more than the closing tag tells which (`outside_iff`, `unclosed_iff`).  The
reader stands where this walk does (`Progress.unread?_of_run`), as every phrase of the grammar ends
outside, and the nodes that it makes are items of tokens outside only (`Derives.itemOf`).
-/

set_option autoImplicit false

namespace Stencil

/-- Some tokens that end outside of what tags leave unread. -/
inductive Outside : List Token → Prop
  | empty : Outside []
  | snoc {ts : List Token} {t : Token} (h : Outside ts) (hraw : ¬ t.isTag "raw")
      (hcomment : ¬ t.isTag "comment") : Outside (ts ++ [t])
  | closed {ts us : List Token} {t u : Token} {f : List Token → Head} {close : String}
      (h : Outside ts) (ht : UnreadTag t f close) (hus : ∀ s ∈ us, ¬ s.isTag close)
      (hu : u.isTag close) : Outside (ts ++ t :: us ++ [u])

/-- Some tokens that end behind a tag which leaves the tokens behind it unread, up to a tag of the
given name. -/
def Unclosed (close : String) (ts : List Token) : Prop :=
  ∃ front t us f, ts = front ++ t :: us ∧ Outside front ∧ UnreadTag t f close ∧
    ∀ s ∈ us, ¬ s.isTag close

namespace Token

/-- The name of the tag that ends what is left unread behind a token, by what it is before it. -/
def skip (skipping : Option String) (t : Token) : Option String :=
  match skipping with
  | some close => if t.isTag close then none else some close
  | none =>
    if t.isTag "raw" then some "endraw" else if t.isTag "comment" then some "endcomment" else none

section Skip

variable {t : Token} {ts : List Token} {close : String}

/-- A tag of another name leaves nothing unread. -/
theorem skip_of_isTag {name : String} (h : t.isTag name) (hraw : name ≠ "raw")
    (hcomment : name ≠ "comment") : skip none t = none := by
  simp [skip, isTag_of_ne h hraw, isTag_of_ne h hcomment]

/-- Literals and outputs leave nothing unread. -/
theorem skip_of_kind (h : t.kind ≠ .tag) : skip none t = none := by
  simp [skip, isTag, h]

/-- A tag whose body is left unread leaves tokens unread up to its closing tag. -/
theorem skip_unread {f : List Token → Head} (h : UnreadTag t f close) : skip none t = some close := by
  cases h with
  | raw h => simp [skip, h]
  | comment h => simp [skip, h, isTag_of_ne h]

/-- Tokens are left unread where no closing tag is among them. -/
theorem foldl_skip_some (h : ∀ s ∈ ts, ¬ s.isTag close) : ts.foldl skip (some close) = some close := by
  induction ts with
  | nil => rfl
  | cons s ts ih =>
    obtain ⟨hs, hts⟩ := List.forall_mem_cons.1 h
    rw [List.foldl_cons, skip, if_neg hs]
    exact ih hts

end Skip

end Token

open Token

section Walk

variable {ts us : List Token} {t : Token} {close : String}

/-- Behind tokens that are outside, nothing is left unread. -/
theorem Outside.foldl_skip (h : Outside ts) : ts.foldl skip none = none := by
  induction h with
  | empty => rfl
  | snoc _ hraw hcomment ih => simp [ih, skip, hraw, hcomment]
  | @closed ts us t u f close _ ht hus hu ih =>
    have hinside : (ts ++ t :: us).foldl skip none = some close := by
      rw [List.foldl_append, ih, List.foldl_cons, skip_unread ht, foldl_skip_some hus]
    rw [List.foldl_concat, hinside, skip, if_pos hu]

/-- Behind an unclosed tag, tokens are left unread up to its closing tag. -/
theorem Unclosed.foldl_skip (h : Unclosed close ts) : ts.foldl skip none = some close := by
  obtain ⟨front, t, us, f, rfl, hfront, ht, hus⟩ := h
  rw [List.foldl_append, hfront.foldl_skip, List.foldl_cons, skip_unread ht, foldl_skip_some hus]

/-- Tokens end either outside of what is left unread, or inside of it. -/
theorem outside_or_unclosed (ts : List Token) : Outside ts ∨ ∃ close, Unclosed close ts := by
  induction ts using List.reverseRecOn with
  | nil => exact .inl .empty
  | append_singleton ts t ih =>
    rcases ih with h | ⟨close, front, r, us, f, rfl, hfront, hr, hus⟩
    · by_cases hraw : t.isTag "raw"
      · exact .inr ⟨_, ts, t, [], _, rfl, h, .raw hraw, by simp⟩
      by_cases hcomment : t.isTag "comment"
      · exact .inr ⟨_, ts, t, [], _, rfl, h, .comment hcomment, by simp⟩
      exact .inl (h.snoc hraw hcomment)
    · by_cases hclose : t.isTag close
      · exact .inl (hfront.closed hr hus hclose)
      · refine .inr ⟨close, front, r, us ++ [t], f, by simp, hfront, hr, fun s hs => ?_⟩
        rcases List.mem_append.1 hs with hs | hs
        · exact hus s hs
        · rw [List.mem_singleton.1 hs]
          exact hclose

/-- Tokens are outside just if nothing is left unread behind them. -/
theorem outside_iff : Outside ts ↔ ts.foldl skip none = none := by
  refine ⟨Outside.foldl_skip, fun h => ?_⟩
  rcases outside_or_unclosed ts with hout | ⟨close, hin⟩
  · exact hout
  · rw [hin.foldl_skip] at h
    cases h

/-- A tag is unclosed just if tokens are left unread behind it. -/
theorem unclosed_iff : Unclosed close ts ↔ ts.foldl skip none = some close := by
  refine ⟨Unclosed.foldl_skip, fun h => ?_⟩
  rcases outside_or_unclosed ts with hout | ⟨close', hin⟩
  · rw [hout.foldl_skip] at h
    cases h
  · obtain rfl := Option.some.inj (hin.foldl_skip.symm.trans h)
    exact hin

/-- Tokens that are outside follow each other. -/
theorem Outside.append (h : Outside ts) (h' : Outside us) : Outside (ts ++ us) := by
  rw [outside_iff, List.foldl_append, h.foldl_skip, h'.foldl_skip]

/-- Behind a token that leaves nothing unread, tokens are outside that were so without it. -/
theorem Outside.cons (ht : skip none t = none) (h : Outside ts) : Outside (t :: ts) := by
  rw [outside_iff, List.foldl_cons, ht, h.foldl_skip]

/-- A token that leaves nothing unread is outside. -/
theorem outside_singleton (ht : skip none t = none) : Outside [t] :=
  .cons ht .empty

end Walk

section Phrases

/-- A tag that stands alone leaves nothing unread. -/
theorem SingleTag.skip {t : Token} {head : Head} (h : SingleTag t head) : skip none t = none := by
  cases h with
  | layout h | assign h | inclusion h | leaveLoop h | nextRound h =>
    exact skip_of_isTag h (by simp) (by simp)

/-- A tag with one body leaves nothing unread. -/
theorem BodyTag.skip {t : Token} {head : Head} {close : String} (h : BodyTag t head close) :
    skip none t = none := by
  cases h with
  | block h | capture h => exact skip_of_isTag h (by simp) (by simp)

/-- The closing tag of a tag with one body leaves nothing unread. -/
theorem BodyTag.skip_close {t u : Token} {head : Head} {close : String} (h : BodyTag t head close)
    (hu : u.isTag close) : Token.skip none u = none := by
  cases h with
  | block | capture => exact skip_of_isTag hu (by simp) (by simp)

/-- A tag with a branch for all other cases leaves nothing unread. -/
theorem ElseTag.skip {t : Token} {head : Head} {close : String} (h : ElseTag t head close) :
    skip none t = none := by
  cases h with
  | negated h | loop h => exact skip_of_isTag h (by simp) (by simp)

/-- The closing tag of a tag with a branch for all other cases leaves nothing unread. -/
theorem ElseTag.skip_close {t u : Token} {head : Head} {close : String} (h : ElseTag t head close)
    (hu : u.isTag close) : Token.skip none u = none := by
  cases h with
  | negated | loop => exact skip_of_isTag hu (by simp) (by simp)

/-- What a tag leaves unread ends with the phrase of the tag. -/
theorem Derives.outside {phrase : Phrase} {ts : List Token} (h : Derives phrase ts) :
    Outside ts := by
  induction h with
  | empty | noElse => exact .empty
  | snoc _ _ ihbody ihitem => exact ihbody.append ihitem
  | literal h | output h => exact outside_singleton (skip_of_kind (by simp [h]))
  | single h => exact outside_singleton h.skip
  | enclosing h _ hu ih => exact (ih.cons h.skip).append (outside_singleton (h.skip_close hu))
  | choosing h _ _ hu ihbody ihelse =>
    exact ((ihbody.cons h.skip).append ihelse).append (outside_singleton (h.skip_close hu))
  | conditional _ _ hu ihbranches ihelse =>
    exact (ihbranches.append ihelse).append
      (outside_singleton (skip_of_isTag hu (by simp) (by simp)))
  | unread h hts hu => exact Outside.empty.closed h hts hu
  | first h _ ih => exact ih.cons (skip_of_isTag h.1 (by simp) (by simp))
  | elsif _ hu _ ihbranches ihbody =>
    exact ihbranches.append (ihbody.cons (skip_of_isTag hu.1 (by simp) (by simp)))
  | otherwise hu _ ih => exact ih.cons (skip_of_isTag hu (by simp) (by simp))

end Phrases

namespace Progress

/-- The name of the tag that ends what the innermost open tag leaves unread, if it does so. -/
def unread? (p : Progress) : Option String :=
  match p.opened with
  | ⟨_, _, _, .verbatim close _⟩ :: _ => some close
  | _ => none

end Progress

section Reader

variable {done ts : List Token} {p : Progress} {t : Token} {pending : Pending}

/-- What opens a tag with bodies leaves nothing unread. -/
theorem Opens.outside (h : Opens ts t pending) : Outside ts := by
  cases h with
  | enclosing h => exact outside_singleton h.skip
  | choosing h => exact outside_singleton h.skip
  | elseOf h hbody hu =>
    exact (hbody.outside.cons h.skip).append
      (outside_singleton (skip_of_isTag hu (by simp) (by simp)))
  | branch h =>
    have hbranches := (h [] [] .empty).outside
    rwa [List.append_nil] at hbranches
  | elseBranch h hu =>
    exact h.outside.append (outside_singleton (skip_of_isTag hu (by simp) (by simp)))

/-- Where the reader takes nodes, nothing is left unread. -/
theorem Reads.outside_unread? (h : Reads done p) : Outside done ∧ p.unread? = none := by
  induction h with
  | outside h => exact ⟨h.outside, rfl⟩
  | inside _ ho hbody ih =>
    refine ⟨ih.1.append (ho.outside.append hbody.outside), ?_⟩
    obtain ⟨_, _, _, _, _, rfl⟩ := ho.pending
    rfl

/-- The reader leaves tokens unread exactly when a walk over them does. -/
theorem Progress.unread?_of_run (h : Progress.run ts {} = .ok p) : p.unread? = ts.foldl skip none := by
  cases reached_of_run h with
  | reading h =>
    obtain ⟨hout, hunread⟩ := h.outside_unread?
    rw [hunread, hout.foldl_skip]
  | @skipping before outer t kind f close done claimed hreads ht hkind hclaimed =>
    have hin : Unclosed close (done ++ t :: claimed) :=
      ⟨done, t, claimed, f, rfl, hreads.outside_unread?.1, ht, hclaimed⟩
    rw [hin.foldl_skip]
    rfl

end Reader

namespace Node

/-- A node that was read from a token among some tokens, outside of what is left unread, and that
names a layout only if it was read from a tag `extends`. -/
structure ReadFrom (n : Node) (ts : List Token) : Prop where
  exists_token : ∃ front back, ts = front ++ n.token :: back ∧ Outside front
  isTag : ∀ layout, n.layout? = some layout → n.token.isTag "extends"

/-- A node that is derived as an item of some tokens, outside of what is left unread. -/
def ItemOf (n : Node) (ts : List Token) : Prop :=
  ∃ front us back, ts = front ++ (us ++ back) ∧ Outside front ∧ Derives (.item n) us

section ItemOf

variable {n : Node} {t : Token} {ts us : List Token}

/-- A node is derived from all of its tokens. -/
theorem itemOf_self (h : Derives (.item n) ts) : n.ItemOf ts :=
  ⟨[], ts, [], by simp, .empty, h⟩

/-- A node among tokens is there when more follow. -/
theorem ItemOf.append_right (h : n.ItemOf ts) (us : List Token) : n.ItemOf (ts ++ us) := by
  obtain ⟨front, item, back, rfl, hfront, hitem⟩ := h
  exact ⟨front, item, back ++ us, by simp, hfront, hitem⟩

/-- A node among tokens is there behind tokens that are outside. -/
theorem ItemOf.append_left (h : n.ItemOf us) (hts : Outside ts) : n.ItemOf (ts ++ us) := by
  obtain ⟨front, item, back, rfl, hfront, hitem⟩ := h
  exact ⟨ts ++ front, item, back, by simp, hts.append hfront, hitem⟩

/-- A node among tokens is there behind one that leaves nothing unread. -/
theorem ItemOf.cons (h : n.ItemOf ts) (ht : skip none t = none) : n.ItemOf (t :: ts) :=
  h.append_left (outside_singleton ht)

end ItemOf

end Node

section Heads

variable {t : Token} {head : Head} {close layout : String}

/-- Only the tag `extends` names a layout. -/
theorem SingleTag.isTag_of_layout? (h : SingleTag t head) (hlayout : head.layout? = some layout) :
    t.isTag "extends" := by
  cases h with
  | layout h => exact h
  | assign _ ha =>
    obtain ⟨name, value, rfl⟩ := exists_of_assignment ha
    cases hlayout
  | inclusion _ ha =>
    obtain ⟨name, params, rfl⟩ := exists_of_inclusionHead ha
    cases hlayout
  | leaveLoop | nextRound => cases hlayout

/-- A tag with one body names no layout. -/
theorem BodyTag.layout? (h : BodyTag t head close) : head.layout? = none := by
  cases h <;> rfl

/-- A tag with a branch for all other cases names no layout. -/
theorem ElseTag.layout? (h : ElseTag t head close) : head.layout? = none := by
  cases h with
  | negated => rfl
  | loop _ ha =>
    obtain ⟨l, rfl⟩ := exists_of_loopHead ha
    rfl

/-- A tag whose body is left unread names no layout. -/
theorem UnreadTag.layout? {f : List Token → Head} (h : UnreadTag t f close) (ts : List Token) :
    (f ts).layout? = none := by
  cases h <;> rfl

end Heads

/-- The nodes that a phrase stands for, and what is below them. -/
def Phrase.Holds (n : Node) : Phrase → Prop
  | body nodes => Node.Holds nodes n
  | item m => Node.Holds [m] n
  | branches _ _ bodies => ∃ body ∈ bodies, Node.Holds body n
  | otherwise bodies => ∃ body ∈ bodies, Node.Holds body n

/-- The branches of a condition begin with the tag `if`. -/
theorem Derives.exists_branches {t : Token} {conditions : List Condition} {bodies : List (List Node)}
    {ts : List Token} (h : Derives (.branches t conditions bodies) ts) :
    t.isTag "if" ∧ ∃ us, ts = t :: us := by
  generalize hphrase : Phrase.branches t conditions bodies = phrase at h
  induction h generalizing conditions bodies with
  | first h =>
    cases hphrase
    exact ⟨h.1, _, rfl⟩
  | elsif _ _ _ ih =>
    cases hphrase
    obtain ⟨ht, us, rfl⟩ := ih rfl
    exact ⟨ht, _, rfl⟩
  | _ => cases hphrase

open Node in
/-- The nodes of a derivation are items of its tokens, outside of what is left unread. -/
theorem Derives.itemOf {phrase : Phrase} {ts : List Token} (h : Derives phrase ts) {n : Node}
    (hn : phrase.Holds n) : n.ItemOf ts := by
  induction h with
  | empty => exact absurd hn not_holds_nil
  | noElse => simp [Phrase.Holds] at hn
  | snoc hbody _ ihbody ihitem =>
    rcases holds_append hn with hn | hn
    · exact (ihbody hn).append_right _
    · exact (ihitem hn).append_left hbody.outside
  | literal h =>
    obtain rfl | ⟨body, hbody, -⟩ := holds_singleton hn
    · exact itemOf_self (.literal h)
    · cases hbody
  | output h ho =>
    obtain rfl | ⟨body, hbody, -⟩ := holds_singleton hn
    · exact itemOf_self (.output h ho)
    · cases hbody
  | single h =>
    obtain rfl | ⟨body, hbody, -⟩ := holds_singleton hn
    · exact itemOf_self (.single h)
    · cases hbody
  | enclosing h hbody hu ih =>
    obtain rfl | ⟨inner, hinner, hin⟩ := holds_singleton hn
    · exact itemOf_self (.enclosing h hbody hu)
    · cases List.mem_singleton.1 hinner
      exact ((ih hin).cons h.skip).append_right _
  | choosing h hbody helse hu ihbody ihelse =>
    obtain rfl | ⟨inner, hinner, hin⟩ := holds_singleton hn
    · exact itemOf_self (.choosing h hbody helse hu)
    · apply ItemOf.append_right
      rcases List.mem_cons.1 hinner with rfl | hinner
      · exact ((ihbody hin).cons h.skip).append_right _
      · exact (ihelse ⟨inner, hinner, hin⟩).append_left (hbody.outside.cons h.skip)
  | conditional h helse hu ihbranches ihelse =>
    obtain rfl | ⟨inner, hinner, hin⟩ := holds_singleton hn
    · exact itemOf_self (.conditional h helse hu)
    · apply ItemOf.append_right
      rcases List.mem_append.1 hinner with hinner | hinner
      · exact (ihbranches ⟨inner, hinner, hin⟩).append_right _
      · exact (ihelse ⟨inner, hinner, hin⟩).append_left h.outside
  | unread h hts hu =>
    obtain rfl | ⟨body, hbody, -⟩ := holds_singleton hn
    · exact itemOf_self (.unread h hts hu)
    · cases hbody
  | first h _ ih =>
    obtain ⟨body, hbody, hn⟩ := hn
    cases List.mem_singleton.1 hbody
    exact (ih hn).cons (skip_of_isTag h.1 (by simp) (by simp))
  | elsif h hu _ ihbranches ihbody =>
    obtain ⟨inner, hinner, hn⟩ := hn
    rcases List.mem_append.1 hinner with hinner | hinner
    · exact (ihbranches ⟨inner, hinner, hn⟩).append_right _
    · cases List.mem_singleton.1 hinner
      exact ((ihbody hn).cons (skip_of_isTag hu.1 (by simp) (by simp))).append_left h.outside
  | otherwise hu _ ih =>
    obtain ⟨body, hbody, hn⟩ := hn
    cases List.mem_singleton.1 hbody
    exact (ih hn).cons (skip_of_isTag hu (by simp) (by simp))

open Node in
/-- An item begins with the token of its node, and names a layout only if that is a tag `extends`. -/
theorem Derives.item_token {n : Node} {ts : List Token} (h : Derives (.item n) ts) :
    (∃ us, ts = n.token :: us) ∧ ∀ layout, n.layout? = some layout → n.token.isTag "extends" := by
  cases h with
  | literal | output => exact ⟨⟨_, rfl⟩, by simp [layout?, head?]⟩
  | single h => exact ⟨⟨_, rfl⟩, fun layout => h.isTag_of_layout?⟩
  | enclosing h => exact ⟨⟨_, rfl⟩, by simp [layout?, head?, h.layout?]⟩
  | choosing h => exact ⟨⟨_, rfl⟩, by simp [layout?, head?, h.layout?]⟩
  | conditional h =>
    obtain ⟨-, us, rfl⟩ := h.exists_branches
    exact ⟨⟨_, rfl⟩, by simp [layout?, head?, Head.layout?]⟩
  | unread h => exact ⟨⟨_, rfl⟩, by simp [layout?, head?, h.layout?]⟩

/-- The nodes of a derivation are made of tokens outside of what is left unread. -/
theorem Derives.readFrom {phrase : Phrase} {ts : List Token} (h : Derives phrase ts) {n : Node}
    (hn : phrase.Holds n) : n.ReadFrom ts := by
  obtain ⟨front, us, back, rfl, hfront, hitem⟩ := h.itemOf hn
  obtain ⟨⟨us, rfl⟩, hlayout⟩ := hitem.item_token
  exact ⟨⟨front, us ++ back, rfl, hfront⟩, hlayout⟩

end Stencil
