import Stencil.Proofs.Layout.Front
import Stencil.Proofs.Layout.Override
import Stencil.Proofs.Layout.Registry
import Stencil.Proofs.Render.Calls
import Stencil.Proofs.Token.Joining
import Stencil.Proofs.Token.Trimming

/-!
# Raw text

A text between a tag `raw` and a tag `endraw` is rendered as it is written.  It is cut into the
tokens that it has alone (`exists_scan_rawSource`); none of them is trimmed, as the marks of tokens
in a raw text are ignored and the two tags around have none (`Token.trimFrom_unread`); a tag
`extends` among them is not looked at (`Token.lateExtends_unread`); and the tag renders their source
texts, which joined are the text (`Template.parse_rawSource`).
-/

set_option autoImplicit false

namespace Stencil

open Token

/-- The source of a text between tags that leave it unread. -/
def rawSource (text : String) : String :=
  Template.tagSource "raw" ++ text ++ Template.tagSource "endraw"

/-- The source of a raw text is the text between two tags. -/
theorem toList_rawSource (text : String) : (rawSource text).toList =
    Delimiter.tag.opener ++ (" raw ".toList ++ (Delimiter.tag.closer ++ (text.toList ++
      (Delimiter.tag.opener ++ (" endraw ".toList ++ Delimiter.tag.closer))))) := by
  simp only [rawSource, Template.tagSource, String.toList_append, List.append_assoc]
  rfl

namespace Token

section Tags

variable (options : Options) (p : Position) (inner : List Char) (name : String)

/-- What is between the delimiters of a tag with a name only is read as that tag. -/
theorem exists_ofInner_tag (hcontent : Content.ofInner inner = ⟨false, name.toList, false⟩)
    (hname : name.toList.takeWhile Text.isWord = name.toList) (hne : name ≠ "") :
    ∃ t, ofInner options .tag p inner = .ok t ∧ t.isTag name ∧
      t.trimLeft = options.trimLeft ∧ t.trimRight = options.trimRight := by
  unfold ofInner
  simp [hcontent, hname, hne, isTag]

end Tags

section Unread

variable {tokens : List Token} {t u : Token} {close : String}

/-- In a raw text nothing is trimmed up to a tag that does not ask for it. -/
theorem trimFrom_unread (greedy : Bool) (htokens : ∀ t ∈ tokens, ¬ t.isTag "endraw")
    (hu : u.kind ≠ .literal) (hleft : u.trimLeft = false) :
    trimFrom greedy true false (tokens ++ [u]) = tokens ++ [u] := by
  induction tokens with
  | nil => simp [trimFrom, hu]
  | cons t tokens ih =>
    obtain ⟨ht, htokens⟩ := List.forall_mem_cons.1 htokens
    have hsuspended : isSuspended true t = true := by simpa [isSuspended] using ht
    have hinside : leavesRaw true t = true := by simp [leavesRaw, hsuspended]
    have htail : headTrims true (tokens ++ [u]) = false := by
      cases tokens with
      | nil => simp [headTrims, hleft]
      | cons s tokens =>
        have hs := htokens s (List.mem_cons_self ..)
        simp [headTrims, isSuspended, hs]
    rw [List.cons_append, trimFrom, hinside, htail, hsuspended, Bool.not_true, Bool.and_false,
      ih htokens]
    simp [trimLiteral]

/-- The scan for a tag `extends` finds none in what is left unread. -/
theorem lateExtends_unread (htokens : ∀ t ∈ tokens, ¬ t.isTag close) (u : Token) (first : Bool) :
    lateExtends (some close) first (tokens ++ [u]) = none := by
  induction tokens generalizing first with
  | nil => simp [lateExtends_cons, lateExtends]
  | cons t tokens ih =>
    obtain ⟨ht, htokens⟩ := List.forall_mem_cons.1 htokens
    rw [List.cons_append, lateExtends_cons, if_neg (by simp), skip, if_neg ht, ih htokens]

end Unread

/-- The pieces of a text are rendered as the text. -/
theorem rawText_of_scans {options : Options} {p : Position} {cs : List Char} {tokens : List Token}
    (h : Scans options p cs tokens) : rawText tokens = String.ofList cs := by
  have hvalue : ∀ t ∈ tokens, (if t.kind = .literal then t.value else t.raw) = t.raw := by
    intro t ht
    split
    · next hkind => exact (h.isPiece t ht).value_eq hkind
    · rfl
  rw [rawText, List.map_congr_left hvalue, ← String.toList_inj, String.toList_join,
    String.toList_ofList, ← h.flatMap_raw, List.flatMap_map]

end Token

section Tokens

variable {options : Options} {text : String} {own tokens : List Token}

/-- A text is cut in the same way between tags that leave it unread as alone. -/
theorem exists_scan_rawSource (hown : scan options text.toList = .ok own)
    (hend : text.toList.getLast? ≠ some '\x7b') : ∃ t cut u,
      scan options (rawSource text).toList = .ok (t :: (cut ++ [u])) ∧
        t.isTag "raw" ∧ t.trimRight = options.trimRight ∧
        u.isTag "endraw" ∧ u.trimLeft = options.trimLeft ∧
        cut.map unplaced = own.map unplaced ∧ rawText cut = text := by
  let inside := Position.start.advance
    (Delimiter.tag.opener ++ " raw ".toList ++ Delimiter.tag.closer)
  obtain ⟨t, ht, hraw, -, htright⟩ :=
    exists_ofInner_tag options .start " raw ".toList "raw" rfl rfl (by simp)
  obtain ⟨u, hu, hendraw, huleft, -⟩ := exists_ofInner_tag options
    (inside.advance text.toList) " endraw ".toList "endraw" rfl rfl (by simp)
  obtain ⟨cut, hcut, hsame⟩ := exists_scanFrom_at hown
    (Delimiter.tag.closer.reverse ++ " raw ".toList.reverse ++
      (Delimiter.tag.opener.reverse ++ [] ++ [])) inside
  refine ⟨t, cut, u, ?_, hraw, htright, hendraw, huleft, hsame, ?_⟩
  · rw [toList_rawSource]
    exact scanFrom_piece (splitOpener_opener _ _) rfl ht (scanFrom_append hcut hend rfl hu)
  · rw [rawText_of_scans (scans_of_scanFrom hcut), String.ofList_toList]

/-- Neither the place of a token nor the value of a literal tells whether it is a tag. -/
theorem not_isTag_of_map_unplaced {cut : List Token} {name : String} (greedy inRaw head : Bool)
    (hsame : cut.map unplaced = own.map unplaced)
    (hown : ∀ t ∈ trimFrom greedy inRaw head own, ¬ t.isTag name) : ∀ t ∈ cut, ¬ t.isTag name := by
  have hnames : cut.map (isTag · name) = (trimFrom greedy inRaw head own).map (isTag · name) := by
    rw [map_trimFrom (fun _ _ => rfl)]
    have hnames := congrArg (List.map (isTag · name)) hsame
    rwa [List.map_map, List.map_map] at hnames
  intro t ht hname
  have hmem : true ∈ cut.map (isTag · name) := List.mem_map.2 ⟨t, ht, hname⟩
  rw [hnames] at hmem
  obtain ⟨s, hs, hname'⟩ := List.mem_map.1 hmem
  exact hown s hs hname'

/-- A text between tags that leave it unread has tokens that nothing is trimmed of. -/
theorem exists_tokenize_rawSource (hleft : options.trimLeft = false)
    (hright : options.trimRight = false) (htokens : tokenize options text = .ok tokens)
    (hunread : ∀ t ∈ tokens, ¬ t.isTag "endraw") (hend : text.toList.getLast? ≠ some '\x7b') :
    ∃ t cut u, tokenize options (rawSource text) = .ok (t :: (cut ++ [u])) ∧ t.isTag "raw" ∧
      (∀ s ∈ cut, ¬ s.isTag "endraw") ∧ u.isTag "endraw" ∧ rawText cut = text := by
  obtain ⟨own, hown, rfl⟩ := exists_scan_of_tokenize htokens
  obtain ⟨t, cut, u, hscan, hraw, htright, hendraw, huleft, hsame, htext⟩ :=
    exists_scan_rawSource hown hend
  have hcut := not_isTag_of_map_unplaced _ _ _ hsame hunread
  have htag : t.kind ≠ .literal := by simp [(isTag_iff.1 hraw).1]
  have hutag : u.kind ≠ .literal := by simp [(isTag_iff.1 hendraw).1]
  have hopens : leavesRaw false t = true := by simp [leavesRaw, hraw]
  refine ⟨t, cut, u, ?_, hraw, hcut, hendraw, htext⟩
  rw [tokenize, hscan]
  show Except.ok (trimFrom options.greedy false false (t :: (cut ++ [u]))) = _
  rw [trimFrom, if_neg htag, hopens, htright, hright, Bool.false_and,
    trimFrom_unread _ hcut hutag (huleft.trans hleft)]

end Tokens

namespace Template

/-- With the tags of every engine, a text between tags that leave it unread is read into one tag
that renders it. -/
theorem parse_rawSource {setup : Setup} {text : String} {tokens : List Token}
    (htags : setup.tags = TagKind.builtin)
    (hleft : setup.options.trimLeft = false) (hright : setup.options.trimRight = false)
    (htokens : tokenize setup.options text = .ok tokens)
    (hunread : ∀ t ∈ tokens, ¬ t.isTag "endraw") (hend : text.toList.getLast? ≠ some '\x7b') :
    ∃ template t, (parse setup none (rawSource text)).1 = .ok template ∧
      template.nodes = [.tag (.text text) [] t] := by
  obtain ⟨t, cut, u, hsource, hraw, hcut, hendraw, rfl⟩ :=
    exists_tokenize_rawSource hleft hright htokens hunread hend
  have hlate : lateExtends none true (t :: (cut ++ [u])) = none := by
    rw [lateExtends_cons, if_neg (by simp), skip_unread (.raw hraw)]
    exact lateExtends_unread hcut u false
  have htake : takeExtends setup.tags (t :: (cut ++ [u])) = .ok (none, t :: (cut ++ [u])) := by
    rw [takeExtends, hlate]
    simp [isTag_of_ne hraw]
  have hlevels : (levels setup [] (t :: (cut ++ [u]))).1 = .ok [t :: (cut ++ [u])] := by
    rw [levels, htake]
  have hread : Node.readAll setup.tags (t :: (cut ++ [u])) =
      .ok [.tag (.text (rawText cut)) [] t] := by
    have hstart : Progress.Accepts {} := by simp [Progress.Accepts]
    have hruns := (Derives.unread (.raw hraw) hcut hendraw).runs {} hstart
    rw [htags, Node.readAll]
    show Progress.run _ _ >>= _ = _
    rw [← List.cons_append, hruns]
    exact Progress.finish_of_unaided Progress.unaided_start
  have hchain : readChain setup none (t :: (cut ++ [u])) =
      .ok [[.tag (.text (rawText cut)) [] t]] := by
    simp only [readChain, Option.map_none, Option.toList_none, hlevels]
    show [t :: (cut ++ [u])].mapM (readLevel setup.tags) = _
    rw [List.mapM_cons, readLevel, hread]
    rfl
  have hsingle : LevelsRead ([] ++ [[.tag (.text (rawText cut)) [] t]]) := readChain_spec hchain
  obtain ⟨template, htemplate, hrewrites⟩ := mergeLevels_rewrites hsingle (List.forall_mem_nil _)
  refine ⟨template, t, ?_, hrewrites.unique (Node.rewrites_self fun x _ => rfl)⟩
  rw [parse, hsource]
  show (resolve _ _ _).1 = _
  rw [resolve_eq, hchain]
  exact htemplate

/-- A template of one raw text renders as this text and changes nothing. -/
theorem run_render_text {setup : Setup} {filters : Filters} {template : Template} {text : String}
    {t : Token} (h : template.nodes = [.tag (.text text) [] t]) (s : Rendering) :
    (template.render setup filters).run.run s = (.ok text, s) := by
  have htag : (Node.render filters (fetch setup filters 999999)
      (.tag (.text text) [] t)).run.run s = (.ok text, s) := by
    rw [Node.render, Render.run_located]
    rfl
  rw [Template.render, h, show inclusionBound = 999999 + 1 from rfl, renderIn_succ, Node.renderAll,
    run_bind, htag]
  dsimp only
  rw [Render.run_after, Node.renderAll]
  show (Except.ok (text ++ ""), s) = _
  rw [String.append_empty]

end Template

namespace Engine

/-- A text between tags that leave it unread is rendered as it is written, whatever is in it, if it
is cut into tokens without a tag `endraw` among them and does not end in an opening brace, and if
the options ask for no trimming around tags. -/
theorem parseAndRender_rawSource (e : Engine) (htags : Dict.Sub TagKind.builtin e.setup.tags)
    (hleft : e.options.trimLeft = false) (hright : e.options.trimRight = false) (text : String)
    (tokens : List Token) (htokens : tokenize e.options text = .ok tokens)
    (hunread : ∀ t ∈ tokens, ¬ t.isTag "endraw") (hend : text.toList.getLast? ≠ some '\x7b')
    (fields : Dict Value) :
    (e.parseAndRender (rawSource text) (.object fields)).1 = .ok text := by
  have hbuiltin : (e.setup.withTags TagKind.builtin).tags = TagKind.builtin := rfl
  have hpass : PassOn (e.setup.withTags TagKind.builtin).tags := withoutFactories_builtin.passOn
  obtain ⟨template, t, htemplate, hnodes⟩ :=
    Template.parse_rawSource hbuiltin hleft hright htokens hunread hend
  have hparse : (e.parse none (rawSource text)).1.map Issued.template = .ok template := by
    rw [e.map_template_parse, ← htemplate, ← Template.parse_of_more hpass htags htemplate]
    rfl
  rw [parseAndRender]
  cases hissued : e.parse none (rawSource text) with
  | mk r e' =>
    rw [hissued] at hparse
    cases r with
    | error err => cases hparse
    | ok issued =>
      cases hparse
      simp only [render, rootFrame, renderInScope, Template.run_render_text hnodes]
      rfl

/-- A text with trim marks, an unknown tag, a tag `extends`, another tag `raw` and a brace before
its last character. -/
def quotedMarkup : String :=
  "a \x7b\x7b- x -\x7d\x7d \x7b%- nope -%\x7d" ++ Template.tagSource "extends 'a'" ++
    Template.tagSource "raw" ++ " \x7b\x7b x | y: \x7d\x7d \x7b "

/-- A raw text full of delimiters comes out as it is. -/
theorem parseAndRender_rawSource_quotedMarkup : ∃ tokens,
    tokenize (ofSources {} []).options quotedMarkup = .ok tokens ∧ tokens.length = 9 ∧
      (∀ t ∈ tokens, ¬ t.isTag "endraw") ∧ quotedMarkup.toList.getLast? ≠ some '\x7b' ∧
        ((ofSources {} []).parseAndRender (rawSource quotedMarkup) (.object [])).1 =
          .ok quotedMarkup := by
  have hcheck : (tokenize {} quotedMarkup).toOption.map (fun tokens =>
      (tokens.length, tokens.all (!·.isTag "endraw"))) = some (9, true) := by
    decide +kernel
  obtain ⟨tokens, htokens, hall⟩ := exists_ok_of_map_toOption hcheck
  obtain ⟨hlength, hnames⟩ := Prod.mk.inj hall
  have hunread : ∀ t ∈ tokens, ¬ t.isTag "endraw" := by
    simpa using List.all_eq_true.1 hnames
  have hend : quotedMarkup.toList.getLast? ≠ some '\x7b' := by
    decide +kernel
  exact ⟨tokens, htokens, hlength, hunread, hend, parseAndRender_rawSource (ofSources {} [])
    (Dict.Sub.refl _) rfl rfl quotedMarkup tokens htokens hunread hend []⟩

end Engine

end Stencil
