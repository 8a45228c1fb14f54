import Stencil.Proofs.Layout.Front
import Stencil.Proofs.Token.Trimming

/-!
# Raw text for the reader and for white space

Trim marks are ignored between a tag `raw` and the next tag `endraw`, and the reader takes what is
between them unread.  The two differ, as trimming knows nothing of comments: behind a tag `raw` that
stands in a comment the marks are ignored up to the next tag `endraw`, wherever that is
(`isSuspended_iff_leftUnread`).  So the marks that are ignored in a level are those of its raw texts
exactly when every tag `raw` in a comment has an `endraw` right behind it, and no mark of a token that
is read is ignored exactly when it has one before the comment ends (`Engine.parse_rawRegions`).
-/

set_option autoImplicit false

namespace Stencil

open Token

/-- Behind some tokens, a token that is left unread up to a closing tag. -/
def LeftUnread (close : String) (before : List Token) (t : Token) : Prop :=
  Unclosed close before ∧ ¬ t.isTag close

/-- Behind some tokens of a level, a token that the reader takes unread, as it waits for a closing tag.
-/
def TakenUnread (close : String) (before : List Token) (t : Token) : Prop :=
  ∃ p, Progress.run (behindLayout before) {} = .ok p ∧ p.unread? = some close ∧ ¬ t.isTag close

/-- Behind some tokens of a level, a token that comes after a tag `raw` in a comment, and not after an
`endraw` behind that. -/
def AfterCommentedRaw (before : List Token) (t : Token) : Prop :=
  ∃ front r between, before = front ++ r :: between ∧ TakenUnread "endcomment" front r ∧
    r.isTag "raw" ∧ (∀ s ∈ between, ¬ s.isTag "endraw") ∧ ¬ t.isTag "endraw"

section Regions

variable {before front mid : List Token} {r t : Token} {close close' : String}

/-- Only the tag `raw` is left unread up to an `endraw`. -/
theorem UnreadTag.isTag_raw {f : List Token → Head} (h : UnreadTag t f "endraw") :
    t.isTag "raw" := by
  generalize hclose : "endraw" = close at h
  cases h with
  | raw h => exact h
  | comment => simp at hclose

/-- Tokens leave one tag unclosed at most. -/
theorem Unclosed.unique (h : Unclosed close before) (h' : Unclosed close' before) : close = close' :=
  Option.some.inj (h.foldl_skip.symm.trans h'.foldl_skip)

/-- A tag that is left unclosed stays so up to its closing tag. -/
theorem Unclosed.append (h : Unclosed close front) (hmid : ∀ s ∈ mid, ¬ s.isTag close) :
    Unclosed close (front ++ mid) := by
  rw [unclosed_iff, List.foldl_append, h.foldl_skip, foldl_skip_some hmid]

/-- A tag `raw` in an unclosed comment is one of its tokens. -/
theorem Unclosed.append_raw (h : Unclosed close front) (hr : r.isTag "raw") (hne : "raw" ≠ close)
    (hmid : ∀ s ∈ mid, ¬ s.isTag close) : Unclosed close (front ++ r :: mid) := by
  refine h.append (List.forall_mem_cons.2 ⟨?_, hmid⟩)
  simp [isTag_of_ne hr hne]

/-- Behind a tag `raw` and no `endraw` after it, a raw text is open, or the tag is in a comment. -/
theorem unclosed_of_raw (hr : r.isTag "raw") (hmid : ∀ s ∈ mid, ¬ s.isTag "endraw") :
    Unclosed "endraw" (front ++ r :: mid) ∨ Unclosed "endcomment" front := by
  rcases outside_or_unclosed front with hout | ⟨close, h⟩
  · exact .inl ⟨front, r, mid, _, rfl, hout, .raw hr, hmid⟩
  · obtain ⟨_, _, _, _, _, _, hopen, _⟩ := id h
    cases hopen with
    | raw => exact .inl (h.append_raw hr (by simp) hmid)
    | comment => exact .inr h

/-- The marks of a token are ignored in a raw text and behind a tag `raw` in a comment. -/
theorem isSuspended_iff_leftUnread : isSuspended (before.foldl leavesRaw false) t = true ↔
    LeftUnread "endraw" before t ∨ ∃ front r between, before = front ++ r :: between ∧
      Unclosed "endcomment" front ∧ r.isTag "raw" ∧ (∀ s ∈ between, ¬ s.isTag "endraw") ∧
        ¬ t.isTag "endraw" := by
  rw [isSuspended_iff]
  constructor
  · rintro ⟨front, r, between, rfl, hr, hbetween, ht⟩
    rcases unclosed_of_raw hr hbetween with h | h
    · exact .inl ⟨h, ht⟩
    · exact .inr ⟨front, r, between, rfl, h, hr, hbetween, ht⟩
  · rintro (⟨⟨front, r, between, f, rfl, -, hr, hbetween⟩, ht⟩ |
      ⟨front, r, between, rfl, -, hr, hbetween, ht⟩)
    · exact ⟨front, r, between, rfl, hr.isTag_raw, hbetween, ht⟩
    · exact ⟨front, r, between, rfl, hr, hbetween, ht⟩

/-- The marks that are ignored are those in raw texts exactly when every tag `raw` in a comment is
closed at once. -/
theorem suspended_iff_leftUnread_iff (level : List Token) :
    (∀ before t after, level = before ++ t :: after →
      (isSuspended (before.foldl leavesRaw false) t = true ↔ LeftUnread "endraw" before t)) ↔
    ∀ before r u after, level = before ++ r :: u :: after → Unclosed "endcomment" before →
      r.isTag "raw" → u.isTag "endraw" := by
  constructor
  · intro h before r u after heq hcomment hr
    by_contra hu
    have hsuspended : isSuspended ((before ++ [r]).foldl leavesRaw false) u = true :=
      isSuspended_iff_leftUnread.2 (.inr ⟨before, r, [], rfl, hcomment, hr, by simp, hu⟩)
    have hraw := ((h (before ++ [r]) u after (by rw [heq, List.append_cons])).1 hsuspended).1
    have hopen : Unclosed "endcomment" (before ++ [r]) :=
      hcomment.append_raw hr (by simp) (by simp)
    exact absurd (hopen.unique hraw) (by simp)
  · intro h before t after heq
    refine ⟨fun hsuspended => ?_, fun hunread => isSuspended_iff_leftUnread.2 (.inl hunread)⟩
    rcases isSuspended_iff_leftUnread.1 hsuspended with
      hunread | ⟨front, r, between, rfl, hcomment, hr, hbetween, ht⟩
    · exact hunread
    -- what comes right behind the tag `raw` is an `endraw`, and this is neither `t` nor before it
    rw [List.append_assoc, List.cons_append] at heq
    cases between with
    | nil => exact absurd (h front r t after heq hcomment hr) ht
    | cons m between =>
      exact absurd (h front r m _ heq hcomment hr) (hbetween m (List.mem_cons_self ..))

/-- No mark of a token that is read is ignored exactly when every tag `raw` in a comment is closed in
it. -/
theorem not_suspended_of_read_iff (level : List Token) :
    (∀ before t after, level = before ++ t :: after → (∀ close, ¬ LeftUnread close before t) →
      isSuspended (before.foldl leavesRaw false) t = false) ↔
    ∀ before r mid u after, level = before ++ r :: (mid ++ u :: after) →
      Unclosed "endcomment" before → r.isTag "raw" → (∀ s ∈ mid, ¬ s.isTag "endcomment") →
        u.isTag "endcomment" → ∃ s ∈ mid, s.isTag "endraw" := by
  constructor
  · intro h before r mid u after heq hcomment hr hmid hu
    by_contra hnone
    have hbetween : ∀ s ∈ mid, ¬ s.isTag "endraw" := fun s hs hend => hnone ⟨s, hs, hend⟩
    have hopen : Unclosed "endcomment" (before ++ r :: mid) := hcomment.append_raw hr (by simp) hmid
    have hread : ∀ close, ¬ LeftUnread close (before ++ r :: mid) u := by
      rintro close ⟨h, hclose⟩
      exact hclose (hopen.unique h ▸ hu)
    have hnot := h (before ++ r :: mid) u after (by simpa using heq) hread
    have hsuspended : isSuspended ((before ++ r :: mid).foldl leavesRaw false) u = true :=
      isSuspended_iff_leftUnread.2 (.inr ⟨before, r, mid, rfl, hcomment, hr, hbetween,
        by simp [isTag_of_ne hu]⟩)
    exact Bool.false_ne_true (hnot.symm.trans hsuspended)
  · intro h before t after heq hread
    rw [Bool.eq_false_iff]
    intro hsuspended
    rcases isSuspended_iff_leftUnread.1 hsuspended with
      hunread | ⟨front, r, between, rfl, hcomment, hr, hbetween, -⟩
    · exact hread _ hunread
    rw [List.append_assoc, List.cons_append] at heq
    by_cases hmid : ∀ s ∈ between, ¬ s.isTag "endcomment"
    · have hopen : Unclosed "endcomment" (front ++ r :: between) :=
        hcomment.append_raw hr (by simp) hmid
      have ht : t.isTag "endcomment" := by
        by_contra ht
        exact hread _ ⟨hopen, ht⟩
      obtain ⟨s, hs, hend⟩ := h front r between t after heq hcomment hr hmid ht
      exact hbetween s hs hend
    · -- the comment ends in between, and the tag `raw` is not closed before that
      have hsome : (between.find? (·.isTag "endcomment")).isSome := by
        simpa [List.find?_isSome] using hmid
      obtain ⟨u, hfind⟩ := Option.isSome_iff_exists.1 hsome
      obtain ⟨hu, mid, rest, rfl, hnone⟩ := List.find?_eq_some_iff_append.1 hfind
      obtain ⟨s, hs, hend⟩ := h front r mid u (rest ++ t :: after) (by simpa using heq) hcomment hr
        (by simpa using hnone) hu
      exact hbetween s (List.mem_append_left _ hs) hend

end Regions

section Level

variable {setup : Setup} {level before after : List Token}

/-- Behind the layout, more tokens follow when the level goes on. -/
theorem prefix_behindLayout (before after : List Token) :
    behindLayout before <+: behindLayout (before ++ after) := by
  cases before with
  | nil => exact List.nil_prefix
  | cons t before =>
    simp only [List.cons_append, behindLayout]
    split
    · exact List.prefix_append ..
    · exact List.prefix_append (t :: before) after

/-- The tag for the layout does not count for what is left unread. -/
theorem foldl_skip_behindLayout (level : List Token) :
    (behindLayout level).foldl skip none = level.foldl skip none := by
  cases level with
  | nil => rfl
  | cons t rest =>
    rw [behindLayout]
    split
    · next ht => rw [List.foldl_cons, skip_of_isTag ht (by simp) (by simp)]
    · rfl

/-- The flag for raw texts is the same behind the tokens before and after trimming. -/
theorem foldl_leavesRaw_take_trimFrom (greedy inRaw head : Bool) (cut : List Token) (n : Nat) :
    ((trimFrom greedy inRaw head cut).take n).foldl leavesRaw false =
      (cut.take n).foldl leavesRaw false := by
  have hfold (ts : List Token) : ts.foldl leavesRaw false =
      (ts.map fun t => (t.isTag "raw", t.isTag "endraw")).foldl
        (fun inRaw mark => inRaw && !mark.2 || mark.1) false := by
    rw [List.foldl_map]
    rfl
  rw [hfold, hfold, List.map_take, List.map_take, map_trimFrom fun _ _ => rfl]

/-- The tokens of a level that is reached are those of a source. -/
theorem Ascent.exists_source {tokens : List Token} {names : List String} {below : List (List Token)}
    (h : Ascent setup tokens names below level) {source : String}
    (htokens : tokenize setup.options source = .ok tokens) :
    ∃ source, tokenize setup.options source = .ok level := by
  induction h generalizing source with
  | start => exact ⟨source, htokens⟩
  | up _ hnext _ ih =>
    obtain ⟨source, -, htokens⟩ := hnext
    exact ih htokens

/-- A level that is reached belongs to the chain. -/
theorem Ascent.exists_mem_chain {seen names : List String} {tokens : List Token}
    {below chain : List (List Token)} (h : Ascent setup tokens names below level)
    (hnew : names.Nodup) (hdisjoint : names.Disjoint seen)
    (hchain : (levels setup seen tokens).1 = .ok chain) :
    ∃ layout, ∃ own ∈ chain, takeExtends setup.tags level = .ok (layout, own) := by
  induction h generalizing seen chain with
  | start tokens =>
    obtain ⟨below, last, hascent, -, -, hroot, rfl⟩ := levels_eq_ok_iff.1 hchain
    generalize (levels setup seen tokens).2 = names at hascent
    cases hascent with
    | start => exact ⟨none, _, by simp, takeExtends_eq_none_iff.2 ⟨rfl, hroot⟩⟩
    | up hextends =>
      obtain ⟨layout, htake, -⟩ := extends_iff.1 hextends
      exact ⟨some layout, _, by simp, htake⟩
  | @up tokens _ next last name _ _ hextends hnext _ ih =>
    obtain ⟨hname, hnew⟩ := List.nodup_cons.1 hnew
    obtain ⟨hseen, hdisjoint⟩ := List.disjoint_cons_left.1 hdisjoint
    obtain ⟨source, hsource, htokens⟩ := hnext
    rw [levels_of_source hextends hseen hsource, htokens] at hchain
    cases hmore : (levels setup (name :: seen) next).1 with
    | error e =>
      dsimp only at hchain
      rw [hmore] at hchain
      cases hchain
    | ok more =>
      dsimp only at hchain
      rw [hmore] at hchain
      cases hchain
      obtain ⟨layout, own, hmem, htake⟩ :=
        ih hnew (List.disjoint_cons_right.2 ⟨hname, hdisjoint⟩) hmore
      exact ⟨layout, own, List.mem_cons_of_mem _ hmem, htake⟩

/-- A token is taken unread by the reader just if the tag names say that it is left unread. -/
theorem takenUnread_iff {p : Progress} (h : Progress.run (behindLayout before) {} = .ok p)
    {close : String} {t : Token} : TakenUnread close before t ↔ LeftUnread close before t := by
  have hunread : p.unread? = some close ↔ Unclosed close before := by
    rw [Progress.unread?_of_run h, foldl_skip_behindLayout, unclosed_iff]
  constructor
  · rintro ⟨q, hq, hclose, ht⟩
    rw [h] at hq
    cases hq
    exact ⟨hunread.1 hclose, ht⟩
  · rintro ⟨hclose, ht⟩
    exact ⟨p, h, hunread.2 hclose, ht⟩

end Level

/-- The levels of a chain whose template is resolved are read. -/
theorem Template.exists_readAll_of_resolve {setup : Setup} {name : Option String} {tokens : List Token}
    {t : Template} (h : (resolve setup name tokens).1 = .ok t) {names : List String}
    {below : List (List Token)} {level : List Token} (hascent : Ascent setup tokens names below level)
    (hnew : names.Nodup) (hdisjoint : names.Disjoint (setup.ownName name)) :
    ∃ nodes, Node.readAll setup.tags (behindLayout level) = .ok nodes := by
  rw [resolve_eq] at h
  obtain ⟨levels, hread, -⟩ := ok_of_bind_eq_ok h
  obtain ⟨chain, hchain, hread⟩ := ok_of_bind_eq_ok hread
  obtain ⟨layout, own, hown, htake⟩ := hascent.exists_mem_chain hnew hdisjoint hchain
  obtain ⟨-, rfl⟩ := of_takeExtends htake
  obtain ⟨nodes, hnodes⟩ := exists_ok_of_mem_of_mapM hread _ hown
  obtain ⟨nodes, hnodes, -⟩ := ok_of_bind_eq_ok hnodes
  exact ⟨nodes, hnodes⟩

/-- How the tokens of a level whose marks are ignored are related to those that are left unread. -/
structure RawRegions (options : Options) (level : List Token) : Prop where
  /-- The flag that trimming goes by can be read off the tokens of the level, as trimming changes no
  tags. -/
  exists_cut : ∃ (source : String) (cut : List Token), scan options source.toList = .ok cut ∧
    level = trimFrom options.greedy false false cut ∧
      ∀ n, (level.take n).foldl leavesRaw false = (cut.take n).foldl leavesRaw false
  /-- The reader gets through all tokens. -/
  exists_run : ∀ before after, level = before ++ after →
    ∃ p, Progress.run (behindLayout before) {} = .ok p
  /-- The marks of a token are ignored in a raw text and behind a tag `raw` in a comment. -/
  suspended_iff : ∀ before t after, level = before ++ t :: after →
    (isSuspended (before.foldl leavesRaw false) t = true ↔
      TakenUnread "endraw" before t ∨ AfterCommentedRaw before t)
  /-- They are ignored in raw texts and nowhere else exactly when every tag `raw` in a comment has an
  `endraw` right behind it. -/
  suspended_iff_takenUnread_iff : (∀ before t after, level = before ++ t :: after →
      (isSuspended (before.foldl leavesRaw false) t = true ↔ TakenUnread "endraw" before t)) ↔
    ∀ before r u after, level = before ++ r :: u :: after → TakenUnread "endcomment" before r →
      r.isTag "raw" → u.isTag "endraw"
  /-- None of a token that is read is ignored exactly when every tag `raw` in a comment has an `endraw`
  behind it in the comment. -/
  not_suspended_of_read_iff : (∀ before t after, level = before ++ t :: after →
      (∀ close, ¬ TakenUnread close before t) → isSuspended (before.foldl leavesRaw false) t = false) ↔
    ∀ before r mid u after, level = before ++ r :: (mid ++ u :: after) →
      TakenUnread "endcomment" before r → r.isTag "raw" → (∀ s ∈ mid, ¬ s.isTag "endcomment") →
        u.isTag "endcomment" → ∃ s ∈ mid, s.isTag "endraw"

namespace Engine

/-- In every level of a template that is parsed, the marks that trimming ignores are those of the
tokens that the reader takes as raw text, and those behind a tag `raw` in a comment. -/
theorem parse_rawRegions {e : Engine} (htags : e.setup.tags = TagKind.builtin)
    {name : Option String} {source : String} {issued : Issued}
    (h : (e.parse name source).1 = .ok issued) {tokens level : List Token} {names : List String}
    {below : List (List Token)} (htokens : tokenize e.options source = .ok tokens)
    (hascent : Ascent e.setup tokens names below level) (hnew : names.Nodup)
    (hdisjoint : names.Disjoint (e.setup.ownName name)) : RawRegions e.options level := by
  have hparse := e.map_template_parse name source
  rw [h, Template.parse, show tokenize e.setup.options source = .ok tokens from htokens] at hparse
  obtain ⟨nodes, hread⟩ := Template.exists_readAll_of_resolve hparse.symm hascent hnew hdisjoint
  rw [htags] at hread
  have hrun : ∀ before after, level = before ++ after →
      ∃ p, Progress.run (behindLayout before) {} = .ok p := by
    rintro before after rfl
    exact Node.exists_run_of_prefix hread (prefix_behindLayout before after)
  have hunread : ∀ {before t after close}, level = before ++ t :: after →
      (TakenUnread close before t ↔ LeftUnread close before t) := by
    intro before t after close heq
    obtain ⟨p, hp⟩ := hrun before (t :: after) heq
    exact takenUnread_iff hp
  have hcomment : ∀ {before r after}, level = before ++ r :: after → r.isTag "raw" →
      (TakenUnread "endcomment" before r ↔ Unclosed "endcomment" before) := by
    intro before r after heq hr
    rw [hunread heq]
    exact and_iff_left (by simp [isTag_of_ne hr])
  refine ⟨?_, hrun, ?_, ?_, ?_⟩
  · obtain ⟨source, hsource⟩ := hascent.exists_source htokens
    obtain ⟨cut, hscan, rfl⟩ := exists_scan_of_tokenize hsource
    exact ⟨source, cut, hscan, rfl, foldl_leavesRaw_take_trimFrom _ _ _ cut⟩
  · intro before t after heq
    rw [isSuspended_iff_leftUnread, hunread heq]
    refine or_congr_right ?_
    constructor
    · rintro ⟨front, r, between, rfl, hfront, hr, hbetween, ht⟩
      exact ⟨front, r, between, rfl, (hcomment (by simpa using heq) hr).2 hfront, hr, hbetween, ht⟩
    · rintro ⟨front, r, between, rfl, hfront, hr, hbetween, ht⟩
      exact ⟨front, r, between, rfl, (hcomment (by simpa using heq) hr).1 hfront, hr, hbetween, ht⟩
  · refine Iff.trans ?_ ((suspended_iff_leftUnread_iff level).trans ?_)
    · exact forall₃_congr fun before t after => imp_congr_right fun heq => by rw [hunread heq]
    · exact forall₄_congr fun before r u after => imp_congr_right fun heq =>
        ⟨fun h hfront hr => h ((hcomment heq hr).1 hfront) hr,
          fun h hfront hr => h ((hcomment heq hr).2 hfront) hr⟩
  · refine Iff.trans ?_ ((not_suspended_of_read_iff level).trans ?_)
    · exact forall₃_congr fun before t after => imp_congr_right fun heq => by
        simp only [hunread heq]
    · exact forall₅_congr fun before r mid u after => imp_congr_right fun heq =>
        ⟨fun h hfront hr => h ((hcomment heq hr).1 hfront) hr,
          fun h hfront hr => h ((hcomment heq hr).2 hfront) hr⟩

/-- A source with a tag `raw` in a comment and an output with a mark behind it. -/
def commentedRaw : String :=
  Template.tagSource "comment" ++ Template.tagSource "raw" ++ Template.tagSource "endcomment" ++
    "a {{- x }}"

/-- An engine that has the source as a layout. -/
def ofCommentedRaw : Engine :=
  ofSources {} [("page.liquid", commentedRaw)]

/-- The description applies to a layout with a raw tag in a comment. -/
theorem parse_rawRegions_commentedRaw : ∃ issued tokens own level,
    ofCommentedRaw.setup.tags = TagKind.builtin ∧
    (ofCommentedRaw.parse none (Template.extendsSource "page" "")).1 = .ok issued ∧
    tokenize ofCommentedRaw.options (Template.extendsSource "page" "") = .ok tokens ∧
    Ascent ofCommentedRaw.setup tokens ["page.liquid"] [own] level ∧ level.length = 5 ∧
      RawRegions ofCommentedRaw.options level := by
  have hcheck : (ofCommentedRaw.parse none (Template.extendsSource "page" "")).1.toOption.map
      (fun issued => issued.template.nodes.length) = some 3 := by
    decide +kernel
  have hlayout : (tokenize {} commentedRaw).toOption.map List.length = some 5 := by
    decide +kernel
  obtain ⟨issued, hissued, -⟩ := exists_ok_of_map_toOption hcheck
  obtain ⟨level, hlevel, hlength⟩ := exists_ok_of_map_toOption hlayout
  obtain ⟨tokens, own, htokens, hascent⟩ : ∃ tokens own,
      tokenize ofCommentedRaw.options (Template.extendsSource "page" "") = .ok tokens ∧
        Ascent ofCommentedRaw.setup tokens ["page.liquid"] [own] level :=
    Template.exists_ascent_of_extendsSource (by decide +kernel) rfl hlevel
  exact ⟨issued, tokens, own, level, rfl, hissued, htokens, hascent, hlength,
    parse_rawRegions rfl hissued htokens hascent (List.nodup_singleton _)
      (List.disjoint_nil_right _)⟩

/-- The mark of an output that is read is ignored behind a comment with a tag `raw`. -/
theorem commentedRaw_suspended : ∃ issued tokens before t after,
    ((ofSources {} []).parse none commentedRaw).1 = .ok issued ∧
    tokenize {} commentedRaw = .ok tokens ∧ tokens = before ++ t :: after ∧
    t.kind = .output ∧ t.trimLeft = true ∧ (∀ close, ¬ TakenUnread close before t) ∧
    isSuspended (before.foldl leavesRaw false) t = true ∧
    ((ofSources {} []).parseAndRender commentedRaw (.object [("x", .ofNat 1)])).1.toOption =
      some "a 1" := by
  have hcheck : ((ofSources {} []).parse none commentedRaw).1.toOption.map
      (fun issued => issued.template.nodes.length) = some 3 := by
    decide +kernel
  have htrimmed : (tokenize {} commentedRaw).toOption.map (fun tokens =>
      ((Progress.run (behindLayout (tokens.take 4)) {}).toOption.map Progress.unread?,
        tokens[4]?.map fun t => (t.kind, t.trimLeft,
          isSuspended ((tokens.take 4).foldl leavesRaw false) t))) =
      some (some none, some (.output, true, true)) := by
    decide +kernel
  have hrendered : ((ofSources {} []).parseAndRender commentedRaw
      (.object [("x", .ofNat 1)])).1.toOption = some "a 1" := by
    decide +kernel
  obtain ⟨issued, hissued, -⟩ := exists_ok_of_map_toOption hcheck
  obtain ⟨tokens, htokens, h⟩ := exists_ok_of_map_toOption htrimmed
  simp only [Prod.mk.injEq, Option.map_eq_some_iff] at h
  obtain ⟨hrun, t, ht, hkind, hmark, hsuspended⟩ := h
  obtain ⟨hlt, rfl⟩ := List.getElem?_eq_some_iff.1 ht
  refine ⟨issued, tokens, tokens.take 4, tokens[4], tokens.drop 5, hissued, htokens, ?_, hkind, hmark,
    ?_, hsuspended, hrendered⟩
  · rw [List.getElem_cons_drop, List.take_append_drop]
  · rintro close ⟨p, hp, hclose, -⟩
    rw [hp] at hrun
    simp [Except.toOption, hclose] at hrun

end Engine

end Stencil
