import Stencil.Proofs.Layout.Registry
import Stencil.Proofs.Render.Actions

/-!
# Getting templates by name

What a name gives depends on its source and on the tags, and not on what is kept
(`Setup.template`).  Where templates are kept, a name that gives one is asked for when the template is
kept, and only then, and a name that gives none is not kept (`Setup.getTemplate_since`).  A store that
keeps what the names give stays so, and what it gives is what a store without templates gives
(`Setup.getTemplate_of_faithful`, `Setup.getTemplate_caching_false`).
-/

set_option autoImplicit false

namespace Stencil

/-- The options with templates kept or not. -/
def Options.caching (o : Options) (keep : Bool) : Options :=
  { o with cache := keep }

/-- The setup with templates kept or not. -/
def Setup.caching (setup : Setup) (keep : Bool) : Setup :=
  { setup with options := setup.options.caching keep }

section Reading

/-- A token is read alike whether templates are kept or not. -/
theorem Token.ofInner_caching (o : Options) (keep : Bool) (d : Delimiter) (p : Position)
    (inner : List Char) : ofInner (o.caching keep) d p inner = ofInner o d p inner :=
  rfl

/-- A source is scanned alike whether templates are kept or not. -/
theorem Token.scanFrom_caching (o : Options) (keep : Bool) (before : List Char) (p : Position)
    (cs : List Char) : scanFrom (o.caching keep) before p cs = scanFrom o before p cs := by
  induction hlength : cs.length using Nat.strongRecOn generalizing before p cs with
  | _ n ih =>
    rw [scanFrom, scanFrom]
    split
    · rfl
    · next text d rest hopener =>
      dsimp only
      split
      · rfl
      · next inner after hmark =>
        have hshorter : after.length < n := by
          have := length_of_splitOpener hopener
          have := length_of_splitMark hmark
          omega
        rw [ofInner_caching]
        split
        · rfl
        · rw [ih after.length hshorter _ _ after rfl]

/-- A source is cut alike whether templates are kept or not. -/
theorem tokenize_caching (o : Options) (keep : Bool) (source : String) :
    tokenize (o.caching keep) source = tokenize o source := by
  unfold tokenize Token.scan
  rw [Token.scanFrom_caching]
  rfl

variable (setup : Setup) (keep : Bool)

/-- The levels of a chain are the same whether templates are kept or not. -/
theorem levels_caching (seen : List String) (tokens : List Token) :
    levels (setup.caching keep) seen tokens = levels setup seen tokens := by
  obtain ⟨names, below, last, r, more, hascent, hnew, hdisjoint, hlast⟩ :=
    exists_ascent setup seen tokens
  have hascent' : Ascent (setup.caching keep) tokens names below last := by
    apply Ascent.imp _ _ hascent
    · exact fun _ _ _ hextends => hextends
    · rintro name next ⟨source, hsource, htokens⟩
      exact ⟨source, hsource, (tokenize_caching _ _ _).trans htokens⟩
  have hlast' : Halts (setup.caching keep) (seen ++ names) last r more := by
    cases hlast with
    | root h => exact .root h
    | refused h => exact .refused h
    | circle h hmem => exact .circle h hmem
    | missing h hmem hsource => exact .missing h hmem hsource
    | undelimited h hmem hsource htokens =>
      exact .undelimited h hmem hsource ((tokenize_caching _ _ _).trans htokens)
  rw [hascent.levels_eq hnew hdisjoint hlast, hascent'.levels_eq hnew hdisjoint hlast']

/-- A source is read into the same template whether templates are kept or not. -/
theorem Template.parse_caching (name : Option String) (source : String) :
    parse (setup.caching keep) name source = parse setup name source := by
  have htokens : tokenize (setup.caching keep).options source = tokenize setup.options source :=
    tokenize_caching _ _ _
  unfold parse resolve
  simp only [htokens, levels_caching]
  rfl

end Reading

namespace Setup

/-- The template that the source of a name gives. -/
def template (setup : Setup) (name : String) : Except Error Template :=
  (setup.source name).bind fun source => (Template.parse setup (some name) source).1

/-- A name stands for the same template whether templates are kept or not. -/
theorem template_caching (setup : Setup) (keep : Bool) (name : String) :
    (setup.caching keep).template name = setup.template name := by
  unfold template
  simp only [Template.parse_caching]
  rfl

/-- What a name gives, it gives with more tags. -/
theorem template_of_more {setup : Setup} {tags : Dict TagKind} (htags : PassOn setup.tags)
    (hmore : Dict.Sub setup.tags tags) {name : String} {t : Template}
    (h : setup.template name = .ok t) :
    (setup.withTags tags).template name = .ok t := by
  unfold template at h ⊢
  show (setup.source name).bind _ = _
  cases hsource : setup.source name with
  | error e =>
    rw [hsource] at h
    cases h
  | ok source =>
    rw [hsource] at h
    change (Template.parse setup (some name) source).1 = .ok t at h
    show (Template.parse (setup.withTags tags) (some name) source).1 = .ok t
    rw [Template.parse_of_more htags hmore h, h]

section Runs

variable (setup : Setup) (name : String) (s : Store)

/-- Reading a source asks for its layouts, and changes the store in nothing else. -/
theorem run_parse (setup : Setup) (name : Option String) (source : String) (s : Store) :
    (setup.parse name source).run.run s = ((Template.parse setup name source).1,
      s.ask ((Template.parse setup name source).2.map .immediate)) :=
  rfl

/-- Reading a source gives its template, keeps nothing and asks for layouts. -/
theorem run_parse_issue (setup : Setup) (name : Option String) (source : String) (s : Store) :
    ((setup.parse name source >>= Loading.issue).run.run s).1.map Issued.template =
        (Template.parse setup name source).1 ∧
      ((setup.parse name source >>= Loading.issue).run.run s).2.cache = s.cache ∧
      ((setup.parse name source >>= Loading.issue).run.run s).2.requests =
        s.requests ++ (Template.parse setup name source).2.map .immediate := by
  rw [run_bind, run_parse]
  cases Template.parse setup name source with
  | mk r layouts =>
    cases r with
    | error e | ok t => exact ⟨rfl, rfl, rfl⟩

/-- Loading a name gives its template, keeps nothing, and asks for the name and for layouts. -/
theorem run_load : ∃ layouts : List String,
    ((setup.load name).run.run s).1.map Issued.template = setup.template name ∧
      ((setup.load name).run.run s).2.cache = s.cache ∧
      ((setup.load name).run.run s).2.requests =
        s.requests ++ .deferred name :: layouts.map .immediate := by
  unfold load template
  rw [run_bind]
  cases setup.source name with
  | error e => exact ⟨[], rfl, rfl, rfl⟩
  | ok source =>
    obtain ⟨htemplate, hcache, hasked⟩ :=
      setup.run_parse_issue (some name) source (s.ask [.deferred name])
    exact ⟨_, htemplate, hcache, hasked.trans (List.append_assoc _ [_] _)⟩

/-- Without keeping templates, each one is loaded anew. -/
theorem run_getTemplate_caching_false :
    ((setup.caching false).getTemplate name).run.run s =
      ((setup.caching false).load (setup.options.resolveName name)).run.run s :=
  rfl

variable {setup name s} (hcache : setup.options.cache = true)

include hcache

/-- A template that is kept is not loaded again, and nothing is asked for. -/
theorem run_getTemplate_of_kept {issued : Issued}
    (h : Dict.find? (setup.options.resolveName name) s.cache = some issued) :
    (setup.getTemplate name).run.run s = (.ok issued, s) := by
  unfold getTemplate
  rw [if_pos hcache, run_bind, run_get]
  dsimp only
  rw [h]
  rfl

/-- A template that is not kept is loaded, and then kept. -/
theorem run_getTemplate_of_not_kept
    (h : Dict.find? (setup.options.resolveName name) s.cache = none) :
    (setup.getTemplate name).run.run s =
      match (setup.load (setup.options.resolveName name)).run.run s with
      | (.ok issued, s') => (.ok issued, s'.keep (setup.options.resolveName name) issued)
      | (.error e, s') => (.error e, s') := by
  unfold getTemplate
  rw [if_pos hcache, run_bind, run_get]
  dsimp only
  rw [h]
  dsimp only
  rw [run_bind]
  cases (setup.load (setup.options.resolveName name)).run.run s with
  | mk r s' => cases r <;> rfl

end Runs

end Setup

/-- The names whose sources were asked for on behalf of a use of them, in order. -/
def Request.deferred? : Request → Option String
  | immediate _ => none
  | deferred name => some name

/-- How often the source of a name was asked for on behalf of a use of it. -/
def askedFor (name : String) (requests : List Request) : Nat :=
  (requests.filterMap Request.deferred?).count name

namespace Store

/-- Whether a template is kept under a name. -/
def keeps (s : Store) (name : String) : Bool :=
  Dict.contains name s.cache

/-- From one store to a later one, nothing that is kept is lost or asked for. -/
structure Lasting (s s' : Store) : Prop where
  kept : Dict.Sub s.cache s'.cache
  quiet : ∀ name, s.keeps name = true → askedFor name s'.requests = askedFor name s.requests

/-- From one store to a later one, moreover, a name that is new is asked for once if it gives a
template, and is kept then; it is not kept if it gives none. -/
structure Since (setup : Setup) (s s' : Store) : Prop extends Lasting s s' where
  once : ∀ name t, s.keeps name = false → setup.template name = .ok t →
    askedFor name s'.requests = askedFor name s.requests + (s'.keeps name).toNat
  failed : ∀ name e, s.keeps name = false → setup.template name = .error e → s'.keeps name = false

/-- What is kept under a name is what the name gives. -/
def Faithful (setup : Setup) (s : Store) : Prop :=
  ∀ name issued, Dict.find? name s.cache = some issued → setup.template name = .ok issued.template

variable {setup : Setup} {s s' s'' : Store} {name : String}

/-- What is kept has a template. -/
theorem keeps_iff : s.keeps name = true ↔ ∃ issued, Dict.find? name s.cache = some issued :=
  Option.isSome_iff_exists

/-- What is kept remains so. -/
theorem Lasting.keeps (h : Lasting s s') (hkept : s.keeps name = true) : s'.keeps name = true := by
  obtain ⟨issued, hissued⟩ := keeps_iff.1 hkept
  exact keeps_iff.2 ⟨issued, h.kept name issued hissued⟩

/-- What a store keeps lasts while nothing happens. -/
theorem Lasting.refl (s : Store) : Lasting s s :=
  ⟨.refl _, fun _ _ => rfl⟩

/-- What lasts over two steps lasts over both. -/
theorem Lasting.trans (h : Lasting s s') (h' : Lasting s' s'') : Lasting s s'' :=
  ⟨h.kept.trans h'.kept,
    fun name hkept => (h'.quiet name (h.keeps hkept)).trans (h.quiet name hkept)⟩

/-- Nothing was asked for while nothing happened. -/
theorem Since.refl (setup : Setup) (s : Store) : Since setup s s := by
  refine ⟨.refl s, ?_, fun _ _ hnew _ => hnew⟩
  intro name t hnew _
  rw [hnew]
  rfl

/-- What happened in two steps happened in one. -/
theorem Since.trans (h : Since setup s s') (h' : Since setup s' s'') : Since setup s s'' := by
  refine ⟨h.toLasting.trans h'.toLasting, ?_, ?_⟩
  · intro name t hnew ht
    have hfirst := h.once name t hnew ht
    cases hkept : s'.keeps name with
    | false =>
      rw [hkept] at hfirst
      rw [h'.once name t hkept ht, hfirst]
      rfl
    | true =>
      rw [hkept] at hfirst
      rw [h'.quiet name hkept, hfirst, h'.keeps hkept]
  · intro name e hnew he
    exact h'.failed name e (h.failed name e hnew he) he

section Load

variable {layouts : List String} (hnew : s.keeps name = false)
  (hasked : s'.requests = s.requests ++ .deferred name :: layouts.map .immediate)

include hasked

include hnew

end Load

/-- What a store keeps is what the names stand for, also when further tags are known. -/
theorem Faithful.with_more {tags : Dict TagKind} (h : Faithful setup s)
    (htags : PassOn setup.tags) (hmore : Dict.Sub setup.tags tags) :
    Faithful (setup.withTags tags) s :=
  fun name issued hkept => Setup.template_of_more htags hmore (h name issued hkept)

/-- Only the cache of a store counts. -/
theorem Faithful.of_cache_eq (h : Faithful setup s) (hcache : s'.cache = s.cache) :
    Faithful setup s' := by
  unfold Faithful
  rw [hcache]
  exact h

/-- A store stays faithful by keeping what a name stands for. -/
theorem Faithful.keep (h : Faithful setup s) {issued : Issued}
    (hissued : setup.template name = .ok issued.template) : Faithful setup (s.keep name issued) := by
  intro other kept hkept
  by_cases hname : other = name
  · rw [hname, Store.keep, Dict.find?_insert_self] at hkept
    cases hkept
    rw [hname, hissued]
  · rw [Store.keep, Dict.find?_insert_of_ne hname] at hkept
    exact h other kept hkept

end Store

namespace Setup

open Store

variable {setup : Setup} {s : Store}

/-- A store that keeps templates gives what the name gives and stays faithful. -/
theorem getTemplate_of_faithful (hcache : setup.options.cache = true) (hs : s.Faithful setup)
    (name : String) :
    ((setup.getTemplate name).run.run s).1.map Issued.template =
        setup.template (setup.options.resolveName name) ∧
      ((setup.getTemplate name).run.run s).2.Faithful setup := by
  cases hkept : Dict.find? (setup.options.resolveName name) s.cache with
  | some issued =>
    rw [run_getTemplate_of_kept hcache hkept]
    exact ⟨(hs _ _ hkept).symm, hs⟩
  | none =>
    rw [run_getTemplate_of_not_kept hcache hkept]
    generalize setup.options.resolveName name = name at hkept ⊢
    obtain ⟨layouts, htemplate, hsame, -⟩ := run_load setup name s
    cases hrun : (setup.load name).run.run s with
    | mk r s' =>
      rw [hrun] at htemplate hsame
      dsimp only at htemplate hsame
      have hfaithful : s'.Faithful setup := hs.of_cache_eq hsame
      cases r with
      | error e => exact ⟨htemplate, hfaithful⟩
      | ok issued => exact ⟨htemplate, hfaithful.keep htemplate.symm⟩

/-- A store that keeps no templates gives what the name gives. -/
theorem getTemplate_caching_false (setup : Setup) (name : String) (s : Store) :
    (((setup.caching false).getTemplate name).run.run s).1.map Issued.template =
      setup.template (setup.options.resolveName name) := by
  rw [run_getTemplate_caching_false, ← template_caching setup false]
  obtain ⟨_, htemplate, -⟩ := run_load (setup.caching false) (setup.options.resolveName name) s
  exact htemplate

end Setup

end Stencil
