import Stencil.Proofs.Node.Unread

/-!
# Tags that are left open

Which tags are open behind some tokens is told by their names alone: a tag that holds what is behind
it is put on a stack, the tag that closes the top takes it off, and nothing else is looked at while a
tag `raw` or `comment` is on top (`openTags`).  A phrase of the grammar leaves the stack as it found
it, and the branches of a tag `if` leave their own tag on it (`Derives.nests`).  So the reader has the
tags of the stack open (`Progress.map_opener_of_run`), and if tokens that can be read are cut off
where the stack is not empty, the error is about its top (`Node.readAll_cut`).
-/

set_option autoImplicit false

namespace Stencil

/-- The names of the tags that hold what is behind them, each with that of the tag that closes it. -/
def closings : List (String × String) :=
  [("block", "endblock"), ("capture", "endcapture"), ("if", "endif"), ("unless", "endunless"),
    ("for", "endfor"), ("raw", "endraw"), ("comment", "endcomment")]

namespace Token

/-- Whether a token is a tag that holds what is behind it. -/
def opens (t : Token) : Bool :=
  closings.any fun (name, _) => t.isTag name

/-- Whether a token closes a tag. -/
def closes (u t : Token) : Bool :=
  closings.any fun (name, close) => t.isTag name && u.isTag close

/-- The tags that are open behind a token, innermost first, by those that are open before it. -/
def nest (opened : List Token) (t : Token) : List Token :=
  match opened with
  | [] => if t.opens then [t] else []
  | o :: outer =>
    if t.closes o then outer
    else if o.isTag "raw" || o.isTag "comment" then o :: outer
    else if t.opens then t :: o :: outer
    else o :: outer

end Token

/-- The tags that are open behind some tokens, innermost first. -/
def openTags (ts : List Token) : List Token :=
  ts.foldl Token.nest []

namespace Token

/-- A tag that holds what is behind it up to a tag of the given name. -/
def OpensUpTo (t : Token) (close : String) : Prop :=
  ∃ name, t.isTag name ∧ (name, close) ∈ closings

/-- What is behind some open tags is looked at: the innermost one, if there is one, leaves nothing
unread. -/
def Attends (opened : List Token) : Prop :=
  ∀ o ∈ opened.head?, skip none o = none

section Nest

variable {t u o : Token} {opened outer : List Token} {name close : String}

/-- A token that leaves nothing unread is neither of the tags that do. -/
theorem isTag_eq_false_of_skip (h : skip none o = none) :
    o.isTag "raw" = false ∧ o.isTag "comment" = false := by
  have hraw : o.isTag "raw" = false := by
    rw [Bool.eq_false_iff]
    intro hraw
    simp [skip, hraw] at h
  refine ⟨hraw, ?_⟩
  rw [Bool.eq_false_iff]
  intro hcomment
  simp [skip, hraw, hcomment] at h

/-- A tag that opens up to a closing one opens. -/
theorem OpensUpTo.opens (h : t.OpensUpTo close) : t.opens = true := by
  obtain ⟨name, ht, hmem⟩ := h
  exact List.any_eq_true.2 ⟨_, hmem, ht⟩

/-- No tag opens and closes. -/
theorem OpensUpTo.closes_eq_false (h : t.OpensUpTo close) (o : Token) : t.closes o = false := by
  obtain ⟨name, ht, hmem⟩ := h
  have hnames : ∀ entry ∈ closings, ∀ other ∈ closings, entry.1 ≠ other.2 := by decide
  refine List.any_eq_false.2 fun other hother => ?_
  simp [isTag_of_ne ht (hnames _ hmem other hother)]

/-- A tag is closed by the tags of one name. -/
theorem OpensUpTo.closes_iff (h : t.OpensUpTo close) : u.closes t = u.isTag close := by
  obtain ⟨name, ht, hmem⟩ := h
  have hnames : ∀ entry ∈ closings, ∀ other ∈ closings, entry.1 = other.1 → entry.2 = other.2 := by
    decide
  rw [Bool.eq_iff_iff]
  constructor
  · intro hu
    obtain ⟨⟨name', close'⟩, hmem', hboth⟩ := List.any_eq_true.1 hu
    obtain ⟨ht', hu⟩ := Bool.and_eq_true_iff.1 hboth
    have hname := (isTag_iff.1 ht).2.symm.trans (isTag_iff.1 ht').2
    rwa [show close = close' from hnames _ hmem _ hmem' hname]
  · intro hu
    exact List.any_eq_true.2 ⟨_, hmem, Bool.and_eq_true_iff.2 ⟨ht, hu⟩⟩

/-- A tag that opens is put on top of the open ones. -/
theorem OpensUpTo.nest (h : t.OpensUpTo close) (hopened : Attends opened) :
    nest opened t = t :: opened := by
  cases opened with
  | nil => rw [Token.nest, if_pos h.opens]
  | cons o outer =>
    obtain ⟨hraw, hcomment⟩ := isTag_eq_false_of_skip (hopened o rfl)
    simp [Token.nest, h.closes_eq_false, hraw, hcomment, h.opens]

/-- The closing tag takes its opener off. -/
theorem OpensUpTo.nest_close (h : t.OpensUpTo close) (hu : u.isTag close) :
    Token.nest (t :: outer) u = outer := by
  rw [Token.nest, if_pos (h.closes_iff.trans hu)]

/-- A tag that leaves tokens unread stays open up to the one that closes it. -/
theorem foldl_nest_unread {f : List Token → Head} {ts : List Token} (h : UnreadTag t f close)
    (ht : t.OpensUpTo close) (hts : ∀ s ∈ ts, ¬ s.isTag close) :
    ts.foldl Token.nest (t :: outer) = t :: outer := by
  have hunread : (t.isTag "raw" || t.isTag "comment") = true := by
    cases h with
    | raw h | comment h => simp [h]
  induction ts with
  | nil => rfl
  | cons s ts ih =>
    obtain ⟨hs, hts⟩ := List.forall_mem_cons.1 hts
    rw [List.foldl_cons, Token.nest, ht.closes_iff, if_neg hs, if_pos hunread]
    exact ih hts

/-- Literals and outputs change nothing about the open tags. -/
theorem nest_of_kind (h : t.kind ≠ .tag) : nest opened t = opened := by
  have hnot (name : String) : t.isTag name = false := by simp [isTag, h]
  cases opened with
  | nil => simp [nest, opens, hnot]
  | cons o outer => simp [nest, opens, closes, hnot]

/-- A tag that neither opens nor closes changes nothing. -/
theorem nest_of_isTag (h : t.isTag name) (hopen : ∀ entry ∈ closings, name ≠ entry.1)
    (hclose : ∀ entry ∈ closings, name ≠ entry.2) : nest opened t = opened := by
  have hopens : t.opens = false :=
    List.any_eq_false.2 fun entry hentry => by simp [isTag_of_ne h (hopen entry hentry)]
  cases opened with
  | nil => simp [nest, hopens]
  | cons o outer =>
    have hcloses : t.closes o = false :=
      List.any_eq_false.2 fun entry hentry => by simp [isTag_of_ne h (hclose entry hentry)]
    simp [nest, hopens, hcloses]

end Nest

end Token

open Token

section Tags

variable {t : Token} {head : Head} {close : String} {opened : List Token}

/-- A tag that stands alone changes nothing about the open tags. -/
theorem SingleTag.nest (h : SingleTag t head) : Token.nest opened t = opened := by
  cases h with
  | layout h | assign h | inclusion h | leaveLoop h | nextRound h =>
    exact nest_of_isTag h (by decide) (by decide)

/-- A tag with one body opens up to its closing tag. -/
theorem BodyTag.opensUpTo (h : BodyTag t head close) : t.OpensUpTo close := by
  cases h with
  | block h | capture h => exact ⟨_, h, by decide⟩

/-- A tag with a branch for all other cases opens up to its closing tag. -/
theorem ElseTag.opensUpTo (h : ElseTag t head close) : t.OpensUpTo close := by
  cases h with
  | negated h | loop h => exact ⟨_, h, by decide⟩

/-- A tag whose body is left unread opens up to its closing tag. -/
theorem UnreadTag.opensUpTo {f : List Token → Head} (h : UnreadTag t f close) :
    t.OpensUpTo close := by
  cases h with
  | raw h | comment h => exact ⟨_, h, by decide⟩

/-- Inside of a tag that leaves nothing unread, tags count. -/
theorem attends_cons (h : skip none t = none) : Attends (t :: opened) := by
  rintro _ ⟨⟩
  exact h

end Tags

section Phrases

/-- What the tokens of a phrase do to the open tags: those of branches leave their tag `if` open. -/
def Phrase.Nests (ts : List Token) : Phrase → Prop
  | .branches t _ _ => ∀ opened, Attends opened → ts.foldl nest opened = t :: opened
  | _ => ∀ opened, Attends opened → ts.foldl nest opened = opened

/-- A phrase leaves the open tags as they were. -/
theorem Derives.nests {phrase : Phrase} {ts : List Token} (h : Derives phrase ts) :
    phrase.Nests ts := by
  have hopens {t : Token} (h : t.isTag "if") : t.OpensUpTo "endif" := ⟨_, h, by decide⟩
  have hskip {t : Token} (h : t.isTag "if") : skip none t = none :=
    skip_of_isTag h (by simp) (by simp)
  induction h with
  | empty | noElse => exact fun opened _ => rfl
  | snoc _ _ ihbody ihitem =>
    intro opened hopened
    rw [List.foldl_append, ihbody opened hopened, ihitem opened hopened]
  | literal h | output h => exact fun opened _ => nest_of_kind (by simp [h])
  | single h => exact fun opened _ => h.nest
  | enclosing h _ hu ih =>
    intro opened hopened
    rw [List.foldl_concat, List.foldl_cons, h.opensUpTo.nest hopened, ih _ (attends_cons h.skip),
      h.opensUpTo.nest_close hu]
  | choosing h _ _ hu ihbody ihelse =>
    intro opened hopened
    have hinside : Attends (_ :: opened) := attends_cons h.skip
    rw [List.foldl_concat, List.foldl_append, List.foldl_cons, h.opensUpTo.nest hopened,
      ihbody _ hinside, ihelse _ hinside, h.opensUpTo.nest_close hu]
  | conditional h _ hu ihbranches ihelse =>
    intro opened hopened
    have ht := h.exists_branches.1
    rw [List.foldl_concat, List.foldl_append, ihbranches _ hopened,
      ihelse _ (attends_cons (hskip ht)), (hopens ht).nest_close hu]
  | unread h hts hu =>
    intro opened hopened
    rw [List.foldl_concat, List.foldl_cons, h.opensUpTo.nest hopened,
      foldl_nest_unread h h.opensUpTo hts, h.opensUpTo.nest_close hu]
  | first h _ ih =>
    intro opened hopened
    rw [List.foldl_cons, (hopens h.1).nest hopened, ih _ (attends_cons (hskip h.1))]
  | elsif h hu _ ihbranches ihbody =>
    intro opened hopened
    rw [List.foldl_append, ihbranches _ hopened, List.foldl_cons,
      nest_of_isTag hu.1 (by decide) (by decide),
      ihbody _ (attends_cons (hskip h.exists_branches.1))]
  | otherwise hu _ ih =>
    intro opened hopened
    rw [List.foldl_cons, nest_of_isTag hu (by decide) (by decide), ih opened hopened]

end Phrases

section Reader

variable {done ts : List Token} {p : Progress} {t : Token} {pending : Pending}

/-- What opens a body leaves its tag open. -/
theorem Opens.nests (h : Opens ts t pending) :
    skip none t = none ∧ ∀ opened, Attends opened → ts.foldl nest opened = t :: opened := by
  cases h with
  | enclosing h => exact ⟨h.skip, fun opened hopened => h.opensUpTo.nest hopened⟩
  | choosing h => exact ⟨h.skip, fun opened hopened => h.opensUpTo.nest hopened⟩
  | elseOf h hbody hu =>
    refine ⟨h.skip, fun opened hopened => ?_⟩
    rw [List.foldl_concat, List.foldl_cons, h.opensUpTo.nest hopened,
      hbody.nests _ (attends_cons h.skip), nest_of_isTag hu (by decide) (by decide)]
  | branch h =>
    have hbranches := h [] [] .empty
    rw [List.append_nil] at hbranches
    exact ⟨skip_of_isTag hbranches.exists_branches.1 (by simp) (by simp), hbranches.nests⟩
  | elseBranch h hu =>
    refine ⟨skip_of_isTag h.exists_branches.1 (by simp) (by simp), fun opened hopened => ?_⟩
    rw [List.foldl_concat, h.nests _ hopened, nest_of_isTag hu (by decide) (by decide)]

/-- The tags that are open behind more tokens are found from those that are open before them. -/
theorem openTags_append (ts us : List Token) : openTags (ts ++ us) = us.foldl nest (openTags ts) :=
  List.foldl_append

/-- Where an item may begin, the reader has the tags of the stack open. -/
theorem Reads.openTags_eq (h : Reads done p) :
    openTags done = p.opened.map OpenTag.opener ∧ Attends (openTags done) := by
  have hnone : Attends [] := by simp [Attends]
  induction h with
  | outside h =>
    have hstack : openTags _ = [] := h.nests [] hnone
    rw [hstack]
    exact ⟨rfl, hnone⟩
  | @inside _ _ outer t _ _ done ts us _ ho hbody ih =>
    obtain ⟨hopened, hattends⟩ := ih
    obtain ⟨hskip, ho⟩ := ho.nests
    have hstack : openTags (done ++ (ts ++ us)) = t :: openTags done := by
      rw [openTags_append, List.foldl_append, ho _ hattends]
      exact hbody.nests _ (attends_cons hskip)
    rw [hstack, hopened]
    exact ⟨rfl, attends_cons hskip⟩

/-- The reader has the tags of the stack open. -/
theorem Progress.map_opener_of_run (h : Progress.run ts {} = .ok p) :
    openTags ts = p.opened.map OpenTag.opener := by
  cases reached_of_run h with
  | reading hreads => exact hreads.openTags_eq.1
  | skipping hreads ht _ hclaimed =>
    obtain ⟨hopened, hattends⟩ := hreads.openTags_eq
    rw [openTags_append, List.foldl_cons, ht.opensUpTo.nest hattends,
      foldl_nest_unread ht ht.opensUpTo hclaimed, hopened]
    rfl

/-- At the end of the tokens the error is about the innermost open tag. -/
theorem Progress.finish_of_run (h : Progress.run ts {} = .ok p) :
    p.finish TagKind.builtin = match openTags ts with
      | [] => .ok p.nodes
      | t :: _ => .error (.unclosedTag t) := by
  rw [Progress.map_opener_of_run h, Progress.finish_of_unaided (reached_of_run h).unaided]
  cases p.opened with
  | nil => rfl
  | cons => rfl

/-- Tokens are read to the end if no tag is open, and otherwise the innermost one is not closed. -/
theorem Node.readAll_of_run (h : Progress.run ts {} = .ok p) :
    Node.readAll TagKind.builtin ts = match openTags ts with
      | [] => .ok p.nodes
      | t :: _ => .error (.unclosedTag t) := by
  rw [← Progress.finish_of_run h]
  rw [Progress.run] at h
  rw [Node.readAll, h]
  rfl

end Reader

/-- Tokens that are read close all their tags.  When they are cut off where a tag is open, they cannot
be read, and the error is about the innermost tag that is open there. -/
theorem Node.readAll_cut {tokens : List Token} {nodes : List Node}
    (h : Node.readAll TagKind.builtin tokens = .ok nodes) :
    openTags tokens = [] ∧ ∀ front back t outer, tokens = front ++ back →
      openTags front = t :: outer → ∃ fault,
        Node.readAll TagKind.builtin front = .error (.parse fault none (some t.position)) ∧
        fault.message = "tag " ++ t.raw ++ " not closed" := by
  constructor
  · obtain ⟨p, hrun⟩ := exists_run_of_prefix h (List.prefix_refl tokens)
    rw [readAll_of_run hrun] at h
    split at h
    · assumption
    · cases h
  · rintro front back t outer rfl hopen
    obtain ⟨p, hrun⟩ := exists_run_of_prefix h (List.prefix_append front back)
    refine ⟨.unclosedTag t.raw, ?_, rfl⟩
    rw [readAll_of_run hrun, hopen]
    rfl

/-- The tokens of a template with a raw text in the second branch of a choice inside a loop. -/
def rawInBranch : List Token :=
  (tokenize {} ("\x7b% for i in list %\x7d\x7b% if i %\x7da\x7b% elsif b %\x7d\x7b% raw %\x7d" ++
    "\x7b% endif %\x7d\x7b% endraw %\x7d\x7b% else %\x7d\x7b% endif %\x7d" ++
    "\x7b% else %\x7dc\x7b% endfor %\x7d")).toOption.getD []

/-- Where a raw text in a branch is cut off, the tag that it begins with is not closed. -/
theorem Node.readAll_cut_rawInBranch : ∃ nodes, Node.readAll TagKind.builtin rawInBranch = .ok nodes ∧
    openTags rawInBranch = [] ∧ ∃ t outer, openTags (rawInBranch.take 6) = t :: outer ∧
      t.raw = "\x7b% raw %\x7d" ∧ outer.length = 2 ∧ ∃ fault,
        Node.readAll TagKind.builtin (rawInBranch.take 6) =
          .error (.parse fault none (some t.position)) ∧
        fault.message = "tag \x7b% raw %\x7d not closed" := by
  have hcheck : (Node.readAll TagKind.builtin rawInBranch).toOption.map List.length = some 1 := by
    decide +kernel
  have hopen : (openTags (rawInBranch.take 6)).map raw =
      ["\x7b% raw %\x7d", "\x7b% if i %\x7d", "\x7b% for i in list %\x7d"] := by
    decide +kernel
  obtain ⟨nodes, hread, -⟩ := exists_ok_of_map_toOption hcheck
  obtain ⟨hclosed, hcut⟩ := Node.readAll_cut hread
  cases hstack : openTags (rawInBranch.take 6) with
  | nil => simp [hstack] at hopen
  | cons t outer =>
    rw [hstack, List.map_cons, List.cons.injEq] at hopen
    obtain ⟨hraw, houter⟩ := hopen
    obtain ⟨fault, hfail, hmessage⟩ :=
      hcut (rawInBranch.take 6) (rawInBranch.drop 6) t outer (List.take_append_drop ..).symm hstack
    rw [hraw] at hmessage
    refine ⟨nodes, hread, hclosed, t, outer, rfl, hraw, ?_, fault, hfail, hmessage⟩
    simpa using congrArg List.length houter

end Stencil
