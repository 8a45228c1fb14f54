import Stencil.Proofs.Token.Cutting

/-!
# Tokens of joined sources

A source is cut from left to right, at the first opening delimiter (`Token.splitOpener_eq_some_iff`)
and behind the first closing one (`Token.splitMark_eq_some_iff`).  Where it is cut depends neither on
what is before it (`Token.exists_scanFrom_at`) nor on what is behind that.  So a text that does
not end in an opening brace keeps its tokens when a delimited text comes behind it
(`Token.scanFrom_append`).  A brace at the end would open a delimiter together with the one behind
it.
-/

set_option autoImplicit false

namespace Stencil.Token

section Splitting

variable {cs text rest inner after mark : List Char} {d : Delimiter}

/-- A source that begins with an opening delimiter has no text in front of it. -/
theorem splitOpener_opener (d : Delimiter) (rest : List Char) :
    splitOpener (d.opener ++ rest) = ([], some (d, rest)) := by
  cases d <;> rfl

/-- A character that is no opening delimiter together with the one behind it is text. -/
theorem splitOpener_cons {c : Char}
    (h : c = '\x7b' → ∀ b ∈ cs.head?, b ≠ '\x7b' ∧ b ≠ '%') :
    splitOpener (c :: cs) = (c :: (splitOpener cs).1, (splitOpener cs).2) := by
  rw [splitOpener.eq_def]
  split
  · next heq => cases heq
  · next heq =>
    cases heq
    exact absurd rfl (h rfl _ rfl).1
  · next heq =>
    cases heq
    exact absurd rfl (h rfl _ rfl).2
  · next heq =>
    cases heq
    rfl

/-- All delimiters open with the same character. -/
theorem head?_append_opener (text rest rest' : List Char) (d d' : Delimiter) :
    (text ++ (d'.opener ++ rest')).head? = (text ++ (d.opener ++ rest)).head? := by
  cases text <;> cases d <;> cases d' <;> rfl

/-- Where an opening delimiter is found depends neither on which one it is nor on what is behind it.
-/
theorem splitOpener_of_some (h : splitOpener cs = (text, some (d, rest))) (d' : Delimiter)
    (rest' : List Char) : splitOpener (text ++ (d'.opener ++ rest')) = (text, some (d', rest')) := by
  fun_induction splitOpener cs generalizing text with
  | case1 => simp at h
  | case2 | case3 =>
    cases h
    exact splitOpener_opener d' rest'
  | case4 c cs houtput htag ih =>
    simp only [Prod.mk.injEq] at h
    obtain ⟨rfl, h⟩ := h
    have hcs : cs = (splitOpener cs).1 ++ (d.opener ++ rest) :=
      eq_of_splitOpener_some (Prod.ext rfl h)
    have hcons : splitOpener (c :: ((splitOpener cs).1 ++ (d'.opener ++ rest'))) = _ :=
      splitOpener_cons fun hc b hb => by
        rw [head?_append_opener _ rest _ d, ← hcs] at hb
        obtain ⟨more, rfl⟩ := List.head?_eq_some_iff.1 hb
        exact ⟨fun hb => houtput more hc (by rw [hb]), fun hb => htag more hc (by rw [hb])⟩
    rw [List.cons_append, hcons, ih (Prod.ext rfl h)]

/-- What comes behind a text does not matter to where an opening delimiter is found in it. -/
theorem splitOpener_append_of_some (h : splitOpener cs = (text, some (d, rest)))
    (more : List Char) : splitOpener (cs ++ more) = (text, some (d, rest ++ more)) := by
  have hcs := eq_of_splitOpener_some h
  rw [hcs, List.append_assoc, List.append_assoc]
  exact splitOpener_of_some h d (rest ++ more)

/-- An opening delimiter is found where it occurs first. -/
theorem length_le_of_splitOpener (h : splitOpener cs = (text, some (d, rest))) {d' : Delimiter}
    {before behind : List Char} (hcs : cs = before ++ (d'.opener ++ behind)) :
    text.length ≤ before.length := by
  fun_induction splitOpener cs generalizing text before with
  | case1 => simp at h
  | case2 | case3 =>
    cases h
    exact Nat.zero_le _
  | case4 c cs houtput htag ih =>
    simp only [Prod.mk.injEq] at h
    obtain ⟨rfl, h⟩ := h
    cases before with
    | nil =>
      cases d' with
      | output =>
        simp only [Delimiter.opener, List.nil_append, List.cons_append, List.cons.injEq] at hcs
        exact absurd hcs.2 (houtput _ hcs.1)
      | tag =>
        simp only [Delimiter.opener, List.nil_append, List.cons_append, List.cons.injEq] at hcs
        exact absurd hcs.2 (htag _ hcs.1)
    | cons b before => exact Nat.succ_le_succ (ih (Prod.ext rfl h) (List.cons.inj hcs).2)

/-- The first opening delimiter is the one with the shortest text in front of it. -/
theorem splitOpener_eq_some_iff : splitOpener cs = (text, some (d, rest)) ↔
    cs = text ++ (d.opener ++ rest) ∧ ∀ before (d' : Delimiter) behind,
      cs = before ++ (d'.opener ++ behind) → text.length ≤ before.length := by
  constructor
  · intro h
    exact ⟨eq_of_splitOpener_some h, fun _ _ _ hcs => length_le_of_splitOpener h hcs⟩
  · rintro ⟨hcs, hfirst⟩
    cases h : splitOpener cs with
    | mk text' next =>
      cases next with
      | none =>
        obtain rfl := eq_of_splitOpener_none h
        have hnot := not_opensIn_splitOpener text'
        rw [h] at hnot
        refine absurd ⟨d, ?_⟩ hnot
        rw [hcs]
        exact ⟨text, rest, by simp⟩
      | some next =>
        obtain ⟨d', rest'⟩ := next
        have hcs' := eq_of_splitOpener_some h
        have hlength := Nat.le_antisymm (length_le_of_splitOpener h hcs) (hfirst _ _ _ hcs')
        obtain ⟨rfl, hopen⟩ := List.append_inj (hcs'.symm.trans hcs) hlength
        cases d <;> cases d' <;> simp_all [Delimiter.opener]

/-- An opening delimiter is found behind a text without one that does not end in an opening brace.
-/
theorem splitOpener_append_opener (h : splitOpener cs = (text, none))
    (hend : cs.getLast? ≠ some '\x7b') (d : Delimiter) (rest : List Char) :
    splitOpener (cs ++ (d.opener ++ rest)) = (cs, some (d, rest)) := by
  fun_induction splitOpener cs generalizing text with
  | case1 => exact splitOpener_opener d rest
  | case2 | case3 => simp at h
  | case4 c cs houtput htag ih =>
    simp only [Prod.mk.injEq] at h
    cases cs with
    | nil =>
      have hcons : splitOpener (c :: (d.opener ++ rest)) = _ := splitOpener_cons fun hc => by
        rw [hc] at hend
        exact absurd rfl hend
      rw [List.cons_append, List.nil_append, hcons, splitOpener_opener]
    | cons b cs =>
      have hcons : splitOpener (c :: (b :: cs ++ (d.opener ++ rest))) = _ :=
        splitOpener_cons fun hc b' hb' => by
          cases hb'
          exact ⟨fun hb => houtput cs hc (by rw [hb]), fun hb => htag cs hc (by rw [hb])⟩
      rw [List.getLast?_cons_cons] at hend
      rw [List.cons_append, hcons, ih (Prod.ext rfl h.2) hend]

/-- What is behind a mark does not matter to where it is found. -/
theorem splitMark_append (h : splitMark mark cs = some (inner, after)) (more : List Char) :
    splitMark mark (cs ++ more) = some (inner, after ++ more) := by
  induction cs generalizing inner with
  | nil => simp [splitMark] at h
  | cons c cs ih =>
    simp only [splitMark] at h
    split at h
    · next hmark =>
      cases h
      obtain ⟨rest, hrest⟩ := List.isPrefixOf_iff_prefix.1 hmark
      have hwhole : mark.isPrefixOf (c :: (cs ++ more)) = true :=
        List.isPrefixOf_iff_prefix.2 ⟨rest ++ more, by rw [← List.append_assoc, hrest]; rfl⟩
      rw [List.cons_append, splitMark, if_pos hwhole, ← hrest, ← List.cons_append, ← hrest,
        List.append_assoc, List.drop_left, List.drop_left]
    · next hmark =>
      obtain ⟨⟨inner', after'⟩, hsplit, heq⟩ := Option.map_eq_some_iff.1 h
      cases heq
      -- the mark is found behind this character, so there is room for it before the further text
      have hlength : mark.length ≤ cs.length := by
        rw [(eq_of_splitMark hsplit).1]
        simp only [List.length_append]
        omega
      have hwhole : ¬ mark.isPrefixOf (c :: (cs ++ more)) = true := by
        rw [List.isPrefixOf_iff_prefix] at hmark ⊢
        exact fun hprefix => hmark (List.prefix_of_prefix_length_le hprefix
          (List.prefix_append (c :: cs) more) (Nat.le_succ_of_le hlength))
      rw [List.cons_append, splitMark, if_neg hwhole, ih hsplit]
      rfl

/-- A closing delimiter is found where it occurs first, and only there. -/
theorem splitMark_eq_some_iff : splitMark d.closer cs = some (inner, after) ↔
    cs = inner ++ (d.closer ++ after) ∧ d.ClosesFirst inner := by
  refine ⟨eq_of_splitMark, ?_⟩
  rintro ⟨rfl, hfirst⟩
  induction inner with
  | nil => cases d <;> simp [splitMark, Delimiter.closer]
  | cons c inner ih =>
    have hnot : ¬ d.closer.isPrefixOf (c :: (inner ++ (d.closer ++ after))) = true := by
      rw [List.isPrefixOf_iff_prefix, ← List.append_assoc, ← List.cons_append]
      intro hprefix
      obtain ⟨more, hmore⟩ := List.prefix_of_prefix_length_le hprefix
        (List.prefix_append (c :: (inner ++ d.closer)) after) (by simp; omega)
      have hnil := hfirst [] more hmore.symm
      rw [hnil, List.append_nil] at hmore
      have hlength := congrArg List.length hmore
      simp only [List.length_cons, List.length_append] at hlength
      omega
    have hinner : d.ClosesFirst inner := fun before more hmore =>
      hfirst (c :: before) more (congrArg (c :: ·) hmore)
    rw [List.cons_append, splitMark, if_neg hnot, ih hinner]
    rfl

/-- A closing delimiter is not found just if it is not there. -/
theorem splitMark_eq_none_iff : splitMark d.closer cs = none ↔ ¬ d.closer <:+: cs := by
  induction cs with
  | nil => cases d <;> simp [splitMark, Delimiter.closer]
  | cons c cs ih =>
    rw [splitMark, List.infix_cons_iff, ← List.isPrefixOf_iff_prefix]
    split
    · next h => simp [h]
    · next h => simp [h, ih]

end Splitting

section Scanning

variable {options : Options} {before cs text rest inner after : List Char} {p p' : Position}
  {d : Delimiter} {t : Token} {tokens more : List Token}

/-- A token with the first place of a source for its own. -/
def unplaced (t : Token) : Token :=
  { t with position := .start }

/-- A delimited text is the same token at any place. -/
theorem ofInner_unplaced (h : ofInner options d p inner = .ok t) :
    ofInner options d p' inner = .ok { t with position := p' } := by
  unfold ofInner at h ⊢
  cases d <;> dsimp only at h ⊢ <;> split at h
  · cases h
  · next hne =>
    cases h
    rw [if_neg hne]
  · cases h
  · next hne =>
    cases h
    rw [if_neg hne]

/-- A text between delimited texts is the same literal at any place. -/
theorem map_unplaced_literals (p p' : Position) (text : List Char) :
    (literals p' text).map unplaced = (literals p text).map unplaced := by
  unfold literals
  split <;> rfl

/-- A source without an opening delimiter is one literal. -/
theorem scanFrom_last (hsplit : splitOpener cs = (text, none)) :
    scanFrom options before p cs = .ok (literals p text) := by
  rw [scanFrom]
  split
  · next heq =>
    cases hsplit.symm.trans heq
    rfl
  · next heq => cases hsplit.symm.trans heq

/-- A text up to a delimiter is scanned, then the delimited text, and then what is behind it. -/
theorem scanFrom_eq (hsplit : splitOpener cs = (text, some (d, rest)))
    (hmark : splitMark d.closer rest = some (inner, after)) :
    scanFrom options before p cs = (do
      let t ← ofInner options d (p.advance text) inner
      let more ← scanFrom options
        (d.closer.reverse ++ inner.reverse ++ (d.opener.reverse ++ text.reverse ++ before))
        ((p.advance text).advance (d.opener ++ inner ++ d.closer)) after
      return literals p text ++ t :: more) := by
  rw [scanFrom]
  split
  · next heq => cases hsplit.symm.trans heq
  · next heq =>
    cases hsplit.symm.trans heq
    dsimp only
    split
    · next heq => cases hmark.symm.trans heq
    · next heq =>
      cases hmark.symm.trans heq
      cases ofInner options d (p.advance text) inner with
      | error e => rfl
      | ok t =>
        dsimp only
        split
        · next hmore => rw [hmore]; rfl
        · next hmore => rw [hmore]; rfl

/-- A source is scanned up to behind its first delimited text, and then the rest is. -/
theorem scanFrom_piece (hsplit : splitOpener cs = (text, some (d, rest)))
    (hmark : splitMark d.closer rest = some (inner, after))
    (ht : ofInner options d (p.advance text) inner = .ok t)
    (hmore : scanFrom options
      (d.closer.reverse ++ inner.reverse ++ (d.opener.reverse ++ text.reverse ++ before))
      ((p.advance text).advance (d.opener ++ inner ++ d.closer)) after = .ok more) :
    scanFrom options before p cs = .ok (literals p text ++ t :: more) := by
  rw [scanFrom_eq hsplit hmark, ht]
  show (scanFrom _ _ _ _ >>= _) = _
  rw [hmore]
  rfl

/-- A text is cut in the same way wherever it stands. -/
theorem exists_scanFrom_at (h : scanFrom options before p cs = .ok tokens) (before' : List Char)
    (p' : Position) : ∃ tokens', scanFrom options before' p' cs = .ok tokens' ∧
      tokens'.map unplaced = tokens.map unplaced := by
  fun_induction scanFrom options before p cs generalizing tokens before' p' with
  | case1 before p cs text hsplit =>
    cases h
    exact ⟨_, scanFrom_last hsplit, map_unplaced_literals p p' text⟩
  | case2 | case3 | case4 => cases h
  | case5 =>
    next hsplit _ _ _ _ hmark _ ht _ _ _ hmore ih =>
    cases h
    obtain ⟨more', hmore', hsame⟩ := ih hmore _ _
    refine ⟨_, scanFrom_piece hsplit hmark (ofInner_unplaced ht) hmore', ?_⟩
    rw [List.map_append, List.map_append, List.map_cons, List.map_cons, hsame,
      map_unplaced_literals]
    rfl

/-- The tokens of a text that does not end in an opening brace stay the same when a delimited text
comes behind it. -/
theorem scanFrom_append (h : scanFrom options before p cs = .ok tokens)
    (hend : cs.getLast? ≠ some '\x7b') (hmark : splitMark d.closer rest = some (inner, []))
    (ht : ofInner options d (p.advance cs) inner = .ok t) :
    scanFrom options before p (cs ++ (d.opener ++ rest)) = .ok (tokens ++ [t]) := by
  fun_induction scanFrom options before p cs generalizing tokens with
  | case1 before p cs text hsplit =>
    cases h
    obtain rfl := eq_of_splitOpener_none hsplit
    have hnothing {before : List Char} {p : Position} :
        scanFrom options before p [] = .ok (literals p []) :=
      scanFrom_last rfl
    exact scanFrom_piece (splitOpener_append_opener hsplit hend d rest) hmark ht hnothing
  | case2 | case3 | case4 => cases h
  | case5 =>
    next p cs text d' behind hsplit _ _ inner' after' hmark' t' ht' _ _ tokens' hscan ih =>
    cases h
    have hcs : cs = (text ++ (d'.opener ++ inner' ++ d'.closer)) ++ after' := by
      rw [eq_of_splitOpener_some hsplit, (eq_of_splitMark hmark').1]
      simp
    have hafter : after'.getLast? ≠ some '\x7b' := by
      intro hlast
      rw [hcs, List.getLast?_append, hlast] at hend
      exact hend rfl
    rw [hcs, Position.advance_append, Position.advance_append] at ht
    rw [scanFrom_piece (splitOpener_append_of_some hsplit _) (splitMark_append hmark' _) ht'
      (ih hscan hafter ht), List.append_assoc, List.cons_append]

end Scanning

end Stencil.Token
