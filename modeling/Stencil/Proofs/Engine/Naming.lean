import Stencil.Proofs.Engine.Loading

/-!
# Names of templates

A name has an extension if the last part of its path that names something goes on with a dot and an
extension behind its first character (`Options.hasExtension_iff`).  A name that lacks one gets the
default extension, and then it has one, whatever dots its parts begin with
(`Options.hasExtension_append`).  So resolving a resolved name changes nothing: a template is kept,
loaded and marked as seen under one key for both spellings of its name
(`Engine.getTemplate_resolveName`).
-/

set_option autoImplicit false

namespace Stencil

/-- The last of the elements that pass a test. -/
theorem getLast?_filter_eq_some_iff {α : Type} {p : α → Bool} {l : List α} {a : α} :
    (l.filter p).getLast? = some a ↔
      ∃ before behind, l = before ++ a :: behind ∧ p a = true ∧ ∀ b ∈ behind, p b = false := by
  rw [List.getLast?_eq_head?_reverse, ← List.filter_reverse, List.head?_filter,
    List.find?_eq_some_iff_append]
  constructor
  · rintro ⟨ha, behind, before, hl, hbehind⟩
    refine ⟨before.reverse, behind.reverse, ?_, ha, ?_⟩
    · simpa using congrArg List.reverse hl
    · simpa using hbehind
  · rintro ⟨before, behind, rfl, ha, hbehind⟩
    exact ⟨ha, behind.reverse, before.reverse, by simp, by simpa using hbehind⟩

/-- A list from its last occurrence of an element on. -/
theorem exists_last_of_mem {α : Type} {a : α} {l : List α} (h : a ∈ l) :
    ∃ before behind, l = before ++ a :: behind ∧ a ∉ behind := by
  obtain ⟨behind, before, hl, hbehind⟩ := List.eq_append_cons_of_mem (List.mem_reverse.2 h)
  exact ⟨before.reverse, behind.reverse, by simpa using congrArg List.reverse hl,
    by simpa using hbehind⟩

namespace Options

section Paths

/-- Some parts of a path, each behind a slash. -/
def behindSlashes (parts : List (List Char)) : List Char :=
  parts.flatMap ('/' :: ·)

/-- Whether a part of a path names something, which is not at the beginning of the path. -/
def names (part : List Char) : Bool :=
  part != ['.'] && !part.isEmpty

/-- The last part of a path that names something: the parts behind it name nothing, and neither does
a single dot, unless the path begins with it. -/
def IsLastPart (path part : List Char) : Prop :=
  ∃ front parts, path = front ++ part ++ behindSlashes parts ∧ part ≠ [] ∧ '/' ∉ part ∧
    (front = [] ∨ front.getLast? = some '/' ∧ part ≠ ['.']) ∧ ∀ p ∈ parts, p = [] ∨ p = ['.']

/-- The extension of a path: what is behind the last dot of its last part, unless that dot is the
first character of the part, or the part is that of the parent directory. -/
def IsExtensionOf (ext path : List Char) : Prop :=
  ∃ stem, IsLastPart path (stem ++ '.' :: ext) ∧ stem ≠ [] ∧ '.' ∉ ext ∧
    stem ++ '.' :: ext ≠ ['.', '.']

/-- A dot and an extension behind it. -/
def IsSuffix (extname : String) : Prop :=
  ∃ ext, extname.toList = '.' :: ext ∧ ext ≠ [] ∧ '.' ∉ ext ∧ '/' ∉ ext

variable {path part ext : List Char} {parts : List (List Char)}

/-- A part of a path names something unless it is empty or a dot. -/
theorem names_eq_true_iff : names part = true ↔ part ≠ ['.'] ∧ part ≠ [] := by
  simp [names]

/-- A part of a path names nothing if it is empty or a dot. -/
theorem names_eq_false_iff : names part = false ↔ part = [] ∨ part = ['.'] := by
  rw [← Bool.not_eq_true, names_eq_true_iff]
  tauto

/-- Parts without slashes are found again between the slashes. -/
theorem splitOn_behindSlashes (hpart : '/' ∉ part) (hparts : ∀ p ∈ parts, '/' ∉ p) :
    (part ++ behindSlashes parts).splitOn '/' = part :: parts := by
  induction parts generalizing part with
  | nil => simpa [behindSlashes] using List.splitOn_eq_singleton hpart
  | cons p parts ih =>
    obtain ⟨hp, hparts⟩ := List.forall_mem_cons.1 hparts
    show (part ++ '/' :: (p ++ behindSlashes parts)).splitOn '/' = _
    rw [List.splitOn_append_cons_self_of_not_mem hpart, ih hp hparts]

/-- Every path consists of a first part and of further ones behind slashes. -/
theorem exists_splitOn (path : List Char) : ∃ first rest, path.splitOn '/' = first :: rest ∧
    path = first ++ behindSlashes rest ∧ '/' ∉ first ∧ ∀ p ∈ rest, '/' ∉ p := by
  induction path with
  | nil => exact ⟨[], [], rfl, rfl, by simp, by simp⟩
  | cons c path ih =>
    obtain ⟨first, rest, hsplit, hpath, hfirst, hrest⟩ := ih
    rw [List.splitOn_cons_eq_if_modifyHead, hsplit]
    by_cases hc : c = '/'
    · subst hc
      refine ⟨[], first :: rest, by simp, ?_, by simp, List.forall_mem_cons.2 ⟨hfirst, hrest⟩⟩
      rw [hpath]
      rfl
    · refine ⟨c :: first, rest, by simp [hc], ?_, ?_, hrest⟩
      · rw [hpath, List.cons_append]
      · exact List.not_mem_cons_of_ne_of_not_mem (Ne.symm hc) hfirst

/-- The last part that counts is the last one that names something, or else the first one if it is
not empty. -/
theorem getLast?_pathParts {first : List Char} {rest : List (List Char)}
    (h : path.splitOn '/' = first :: rest) : (pathParts path).getLast? =
      (rest.filter names).getLast?.or ([first].filter (!·.isEmpty)).getLast? := by
  have hrest : (rest.filter (· != ['.'])).filter (!·.isEmpty) = rest.filter names := by
    rw [List.filter_filter]
    exact List.filter_congr fun p _ => Bool.and_comm ..
  rw [pathParts, h]
  dsimp only
  rw [← List.singleton_append, List.filter_append, List.getLast?_append, hrest]

/-- The parts of a path that are told apart by its slashes end with its last part. -/
theorem getLast?_pathParts_eq_some_iff :
    (pathParts path).getLast? = some part ↔ IsLastPart path part := by
  constructor
  · intro h
    obtain ⟨first, rest, hsplit, rfl, hfirst, hrest⟩ := exists_splitOn path
    rw [getLast?_pathParts hsplit, Option.or_eq_some_iff] at h
    rcases h with h | ⟨hnone, h⟩
    · obtain ⟨before, behind, rfl, hpart, hbehind⟩ := getLast?_filter_eq_some_iff.1 h
      obtain ⟨hdot, hne⟩ := names_eq_true_iff.1 hpart
      refine ⟨first ++ behindSlashes before ++ ['/'], behind, ?_, hne, hrest part (by simp),
        .inr ⟨by simp, hdot⟩, fun p hp => names_eq_false_iff.1 (hbehind p hp)⟩
      simp [behindSlashes]
    · rw [List.getLast?_eq_none_iff, List.filter_eq_nil_iff] at hnone
      have hpart : first = part ∧ first ≠ [] := by
        cases first with
        | nil => cases h
        | cons c first => exact ⟨Option.some.inj h, List.cons_ne_nil c first⟩
      obtain ⟨rfl, hne⟩ := hpart
      refine ⟨[], rest, rfl, hne, hfirst, .inl rfl, fun p hp => names_eq_false_iff.1 ?_⟩
      simpa using hnone p hp
  · rintro ⟨front, parts, rfl, hne, hpart, hfront, hparts⟩
    have hslash : ∀ p ∈ parts, '/' ∉ p := by
      intro p hp
      rcases hparts p hp with rfl | rfl <;> decide
    have hsplit := splitOn_behindSlashes hpart hslash
    have hnothing : ∀ p ∈ parts, names p = false := fun p hp => names_eq_false_iff.2 (hparts p hp)
    rcases hfront with rfl | ⟨hlast, hdot⟩
    · rw [List.nil_append, getLast?_pathParts hsplit,
        List.filter_eq_nil_iff.2 (by simpa using hnothing)]
      cases part with
      | nil => exact absurd rfl hne
      | cons c part => rfl
    · obtain ⟨front, rfl⟩ := List.getLast?_eq_some_iff.1 hlast
      obtain ⟨first, rest, hfirst, -⟩ := exists_splitOn front
      have hwhole : (front ++ ['/'] ++ part ++ behindSlashes parts).splitOn '/' =
          first :: (rest ++ part :: parts) := by
        rw [List.append_assoc, List.append_assoc, List.singleton_append,
          List.splitOn_append_cons_self, hsplit, hfirst, List.cons_append]
      rw [getLast?_pathParts hwhole, getLast?_filter_eq_some_iff.2
        ⟨rest, parts, rfl, names_eq_true_iff.2 ⟨hdot, hne⟩, hnothing⟩]
      rfl

/-- The test for an extension finds just the extensions of the last part. -/
theorem hasExtension_iff : hasExtension path = true ↔ ∃ ext, IsExtensionOf ext path := by
  unfold hasExtension IsExtensionOf
  constructor
  · intro h
    split at h
    · cases h
    · next part hpart =>
      obtain ⟨hparent, hdot⟩ := Bool.and_eq_true_iff.1 h
      obtain ⟨stem, ext, htail, hext⟩ := exists_last_of_mem (List.contains_iff_mem.1 hdot)
      cases part with
      | nil => cases hdot
      | cons c part =>
        obtain rfl : part = stem ++ '.' :: ext := htail
        exact ⟨ext, c :: stem, getLast?_pathParts_eq_some_iff.1 hpart, List.cons_ne_nil c stem,
          hext, bne_iff_ne.1 hparent⟩
  · rintro ⟨ext, stem, hpart, hstem, -, hparent⟩
    rw [getLast?_pathParts_eq_some_iff.2 hpart]
    cases stem with
    | nil => exact absurd rfl hstem
    | cons c stem =>
      simp only [Bool.and_eq_true, bne_iff_ne]
      exact ⟨hparent, by simp⟩

/-- A suffix becomes the extension of the name that it is put behind. -/
theorem hasExtension_append (hpath : path ≠ []) (hlast : path.getLast? ≠ some '/')
    (hext : ext ≠ []) (hdot : '.' ∉ ext) (hslash : '/' ∉ ext) :
    hasExtension (path ++ '.' :: ext) = true := by
  -- what is behind the last slash is not empty, and becomes the stem
  have hstem : ∃ front stem, path = front ++ stem ∧ stem ≠ [] ∧ '/' ∉ stem ∧
      (front = [] ∨ front.getLast? = some '/') := by
    by_cases hmem : '/' ∈ path
    · obtain ⟨front, stem, rfl, hstem⟩ := exists_last_of_mem hmem
      refine ⟨front ++ ['/'], stem, by simp, ?_, hstem, .inr (by simp)⟩
      rintro rfl
      simp at hlast
    · exact ⟨[], path, rfl, hpath, hmem, .inl rfl⟩
  obtain ⟨front, stem, rfl, hstem, hnoslash, hfront⟩ := hstem
  obtain ⟨c, stem, rfl⟩ := List.exists_cons_of_ne_nil hstem
  have hpart : IsLastPart (front ++ c :: stem ++ '.' :: ext) (c :: stem ++ '.' :: ext) := by
    refine ⟨front, [], by simp [behindSlashes], by simp, ?_, ?_, by simp⟩
    · simpa [hslash] using hnoslash
    · exact hfront.imp_right fun h => ⟨h, by simp⟩
  refine hasExtension_iff.2 ⟨ext, c :: stem, hpart, hstem, hdot, ?_⟩
  -- a dot alone and an extension are no parent directory
  simp only [List.cons_append, ne_eq, List.cons.injEq, not_and]
  rintro - h
  cases stem with
  | nil => exact hext (List.cons.inj h).2
  | cons c stem => simp at h

end Paths

/-- A name that gets the default extension is resolved. -/
theorem resolveName_resolveName {o : Options} {name : String} (hext : IsSuffix o.extname)
    (hname : name ≠ "") (hlast : name.toList.getLast? ≠ some '/') :
    o.resolveName (o.resolveName name) = o.resolveName name := by
  have hresolved : hasExtension (o.resolveName name).toList = true := by
    unfold resolveName
    split
    · assumption
    · obtain ⟨ext, hsuffix, hne, hdot, hslash⟩ := hext
      rw [String.toList_append, hsuffix]
      exact hasExtension_append (by simpa using hname) hlast hne hdot hslash
  rw [resolveName, if_pos hresolved]

/-- The empty name becomes that of a hidden file, which has no extension. -/
example : ({} : Options).resolveName "" = ".liquid" ∧
    ({} : Options).resolveName ".liquid" = ".liquid.liquid" := by
  decide

end Options

namespace Setup

variable {setup : Setup} {name key : String}

/-- A name stands for a key: where templates are kept, the one that is kept under the key is given
and nothing is asked for.  Otherwise the source of the key is asked for once, before its layouts; it
gives the template, which is then kept under the key where templates are kept. -/
structure StandsFor (setup : Setup) (name key : String) : Prop where
  kept : ∀ s issued, setup.options.cache = true → Dict.find? key s.cache = some issued →
    (setup.getTemplate name).run.run s = (.ok issued, s)
  loaded : ∀ s, (setup.options.cache = true → Dict.find? key s.cache = none) →
    ∃ (r : Except Error Issued) (s' : Store) (layouts : List String),
      (setup.getTemplate name).run.run s = (r, s') ∧
      r.map Issued.template = setup.template key ∧
      s'.requests = s.requests ++ .deferred key :: layouts.map .immediate ∧
      s'.cache = match r with
        | .ok issued => if setup.options.cache then Dict.insert key issued s.cache else s.cache
        | .error _ => s.cache

/-- A template that is loaded under a key is marked as seen under it: its layouts are followed with
that name as the only one seen, so that leading back to it is an error. -/
structure MarksSeen (setup : Setup) (key : String) : Prop where
  template : ∀ tokens, Provides setup key tokens →
    setup.template key = (levels setup [key] tokens).1.bind (Template.ofLevels setup.tags)
  circle : ∀ tokens names below last own, Provides setup key tokens →
    Ascent setup tokens names below last → names.Nodup → key ∉ names →
    Extends setup last own key → setup.template key = .error (.circular key)

/-- What a name is resolved to stands for the same template. -/
theorem standsFor (setup : Setup) (name : String) :
    setup.StandsFor name (setup.options.resolveName name) where
  kept s issued hcache h := run_getTemplate_of_kept hcache h
  loaded s h := by
    obtain ⟨layouts, htemplate, hsame, hasked⟩ :=
      setup.run_load (setup.options.resolveName name) s
    cases hcache : setup.options.cache with
    | true =>
      rw [run_getTemplate_of_not_kept hcache (h hcache)]
      cases hrun : (setup.load (setup.options.resolveName name)).run.run s with
      | mk r s' =>
        rw [hrun] at htemplate hsame hasked
        cases r with
        | error e => exact ⟨.error e, s', layouts, rfl, htemplate, hasked, hsame⟩
        | ok issued =>
          exact ⟨.ok issued, _, layouts, rfl, htemplate, hasked,
            congrArg (Dict.insert _ issued) hsame⟩
    | false =>
      refine ⟨_, _, layouts, ?_, htemplate, hasked, ?_⟩
      · unfold getTemplate
        rw [if_neg (by simp [hcache])]
        rfl
      · rw [hsame]
        split <;> rfl

/-- A name that is resolved to itself is marked as seen by its own text. -/
theorem marksSeen (hkey : setup.options.resolveName key = key) : setup.MarksSeen key := by
  have htemplate (tokens : List Token) (h : Provides setup key tokens) :
      setup.template key = (levels setup [key] tokens).1.bind (Template.ofLevels setup.tags) := by
    obtain ⟨source, hsource, htokens⟩ := h
    have hgiven : setup.source key = .ok source := by rw [Setup.source, hsource]
    rw [Setup.template, hgiven]
    show (Template.parse setup (some key) source).1 = _
    rw [Template.parse, htokens]
    show ((levels setup [setup.options.resolveName key] tokens).1.bind _) = _
    rw [hkey]
  refine ⟨htemplate, ?_⟩
  intro tokens names below last own hprovides hascent hnew hseen hlast
  rw [htemplate tokens hprovides, hascent.levels_eq hnew (List.disjoint_singleton.2 hseen)
    (.circle hlast List.mem_cons_self)]
  rfl

end Setup

/-- With a dot and an extension as the default extension, a name that is not empty and does not end
with a slash is resolved once and for all.  So the name and the resolved name get the same template:
both stand for the resolved name, and the template is marked as seen under it. -/
theorem Engine.getTemplate_resolveName (e : Engine) {name : String}
    (hext : Options.IsSuffix e.options.extname) (hname : name ≠ "")
    (hlast : name.toList.getLast? ≠ some '/') :
    e.options.resolveName (e.options.resolveName name) = e.options.resolveName name ∧
      e.getTemplate (e.options.resolveName name) = e.getTemplate name ∧
      e.setup.StandsFor name (e.options.resolveName name) ∧
      e.setup.StandsFor (e.options.resolveName name) (e.options.resolveName name) ∧
      e.setup.MarksSeen (e.options.resolveName name) := by
  have hkey := Options.resolveName_resolveName hext hname hlast
  refine ⟨hkey, ?_, e.setup.standsFor name, ?_, Setup.marksSeen hkey⟩
  · change e.setup.options.resolveName (e.setup.options.resolveName name) =
      e.setup.options.resolveName name at hkey
    unfold getTemplate Setup.getTemplate
    simp only [options, hkey]
  · have hstands := e.setup.standsFor (e.options.resolveName name)
    change e.setup.StandsFor _ (e.options.resolveName (e.options.resolveName name)) at hstands
    rwa [hkey] at hstands

/-- An engine whose templates have an extension of their own, one of them hidden below a directory
with a dot. -/
def Engine.ofHiddenPage : Engine :=
  .ofSources { extname := ".tpl" } [("v1.2/.page.tpl", "page")]

/-- A name whose last part begins with a dot gets an ending, and stands for the same template with
it. -/
theorem Engine.getTemplate_resolveName_ofHiddenPage :
    Options.IsSuffix ofHiddenPage.options.extname ∧ "v1.2/.page" ≠ "" ∧
      "v1.2/.page".toList.getLast? ≠ some '/' ∧
      ofHiddenPage.options.resolveName "v1.2/.page" = "v1.2/.page.tpl" ∧
      ofHiddenPage.getTemplate (ofHiddenPage.options.resolveName "v1.2/.page") =
        ofHiddenPage.getTemplate "v1.2/.page" :=
  have hext : Options.IsSuffix ofHiddenPage.options.extname := ⟨['t', 'p', 'l'], by decide⟩
  ⟨hext, by decide, by decide, by decide,
    (ofHiddenPage.getTemplate_resolveName hext (by decide) (by decide)).2.1⟩

end Stencil
