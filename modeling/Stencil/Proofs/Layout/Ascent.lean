import Mathlib.Data.List.Nodup
import Mathlib.Data.List.Perm.Subperm
import Stencil.Proofs.Layout.Extending

/-!
# Following the layouts of a chain

From some tokens one ascends to the layout that they extend, from there to the next one, and so on
(`Ascent`).  An ascent to layouts that are all new halts at a level that extends nothing, at one that
leads back to a name already seen, or at one that cannot be read (`Halts`); there is always such an
ascent (`exists_ascent`), and it determines the chain of levels and the names that are asked for
(`Ascent.levels_eq`).  So a chain is refused as circular exactly when the names lead back to one that
was seen, and otherwise it ends at the first level without a layout (`Template.resolve_follows_layouts`).
-/

set_option autoImplicit false

namespace Stencil

variable {setup : Setup}

/-- The source of a name is found and consists of some tokens. -/
def Provides (setup : Setup) (name : String) (tokens : List Token) : Prop :=
  ∃ source, Dict.find? name setup.sources = some source ∧
    tokenize setup.options source = .ok tokens

/-- Some tokens extend the first of the names, its source extends the next one, and so on up to the
last tokens; `levels` are the tokens of all levels below the last one. -/
inductive Ascent (setup : Setup) :
    List Token → List String → List (List Token) → List Token → Prop
  | start (tokens : List Token) : Ascent setup tokens [] [] tokens
  | up {tokens own next last : List Token} {name : String} {names : List String}
      {levels : List (List Token)} (h : Extends setup tokens own name)
      (hnext : Provides setup name next) (hrest : Ascent setup next names levels last) :
      Ascent setup tokens (name :: names) (own :: levels) last

/-- With every level that extends a layout, and with every source, the same holds in another setup. -/
theorem Ascent.imp {setup' : Setup} {tokens last : List Token} {names : List String}
    {below : List (List Token)}
    (hextends : ∀ tokens own name, Extends setup tokens own name → Extends setup' tokens own name)
    (hprovides : ∀ name next, Provides setup name next → Provides setup' name next)
    (h : Ascent setup tokens names below last) : Ascent setup' tokens names below last := by
  induction h with
  | start tokens => exact .start tokens
  | up h hnext _ ih => exact .up (hextends _ _ _ h) (hprovides _ _ hnext) ih

/-- The error for a chain that leads back to a name. -/
def Error.circular (name : String) : Error :=
  parse (.circularLayout name) none none

/-- What becomes of a chain at its last level, when some names were seen: the tokens of the level or
an error, and the names that are asked for in vain. -/
inductive Halts (setup : Setup) (seen : List String) (last : List Token) :
    Except Error (List Token) → List String → Prop
  | root (h : ExtendsNothing last) : Halts setup seen last (.ok last) []
  | refused {e : Error} (h : takeExtends setup.tags last = .error e) :
      Halts setup seen last (.error e) []
  | circle {own : List Token} {name : String} (h : Extends setup last own name)
      (hseen : name ∈ seen) : Halts setup seen last (.error (.circular name)) []
  | missing {own : List Token} {name : String} (h : Extends setup last own name)
      (hseen : name ∉ seen) (hsource : Dict.find? name setup.sources = none) :
      Halts setup seen last (.error (.notFound name)) [name]
  | undelimited {own : List Token} {name source : String} {e : Error}
      (h : Extends setup last own name) (hseen : name ∉ seen)
      (hsource : Dict.find? name setup.sources = some source)
      (htokens : tokenize setup.options source = .error e) :
      Halts setup seen last (.error e) [name]

/-- Only the set of the seen names counts. -/
theorem Halts.congr {seen seen' : List String} {last : List Token} {r : Except Error (List Token)}
    {more : List String} (h : Halts setup seen last r more) (hseen : ∀ n, n ∈ seen ↔ n ∈ seen') :
    Halts setup seen' last r more := by
  cases h with
  | root h => exact .root h
  | refused h => exact .refused h
  | circle h hmem => exact .circle h ((hseen _).1 hmem)
  | missing h hmem hsource => exact .missing h (mt (hseen _).2 hmem) hsource
  | undelimited h hmem hsource htokens =>
    exact .undelimited h (mt (hseen _).2 hmem) hsource htokens

section Levels

variable {seen : List String} {tokens own next : List Token} {name : String}

/-- Some tokens whose layout was not seen and has a source. -/
theorem levels_of_source {source : String} (h : Extends setup tokens own name) (hseen : name ∉ seen)
    (hsource : Dict.find? name setup.sources = some source) :
    levels setup seen tokens = match tokenize setup.options source with
      | .error e => (.error e, [name])
      | .ok next => ((levels setup (name :: seen) next).1.map (own :: ·),
          name :: (levels setup (name :: seen) next).2) := by
  obtain ⟨layout, htake, rfl⟩ := extends_iff.1 h
  rw [levels, htake]
  dsimp only
  rw [dif_neg (by simpa using hseen)]
  split
  · next hnone => simp [hsource] at hnone
  · next hsome =>
    rw [hsource] at hsome
    cases hsome
    rfl

/-- What a chain comes to at its last level. -/
theorem levels_of_halts {last : List Token} {r : Except Error (List Token)} {more : List String}
    (h : Halts setup seen last r more) : levels setup seen last = (r.map ([·]), more) := by
  cases h with
  | root h =>
    rw [levels, takeExtends_eq_none_iff.2 ⟨rfl, h⟩]
    rfl
  | refused h =>
    rw [levels, h]
    rfl
  | circle h hmem =>
    obtain ⟨layout, htake, rfl⟩ := extends_iff.1 h
    rw [levels, htake]
    dsimp only
    rw [dif_pos (by simpa using hmem)]
    rfl
  | missing h hmem hsource =>
    obtain ⟨layout, htake, rfl⟩ := extends_iff.1 h
    rw [levels, htake]
    dsimp only
    rw [dif_neg (by simpa using hmem)]
    split
    · rfl
    · next hsome => simp [hsource] at hsome
  | undelimited h hmem hsource htokens =>
    rw [levels_of_source h hmem hsource, htokens]
    rfl

/-- An ascent to new names determines the chain and the names that are asked for. -/
theorem Ascent.levels_eq {names : List String} {below : List (List Token)} {last : List Token}
    {r : Except Error (List Token)} {more : List String} (h : Ascent setup tokens names below last)
    (hnew : names.Nodup) (hdisjoint : names.Disjoint seen)
    (hlast : Halts setup (seen ++ names) last r more) :
    levels setup seen tokens = (r.map (below ++ [·]), names ++ more) := by
  induction h generalizing seen with
  | start tokens =>
    rw [List.append_nil] at hlast
    exact levels_of_halts hlast
  | @up tokens own next last name names below h hnext _ ih =>
    obtain ⟨hname, hnew⟩ := List.nodup_cons.1 hnew
    obtain ⟨hseen, hdisjoint⟩ := List.disjoint_cons_left.1 hdisjoint
    have hrest := ih hnew (List.disjoint_cons_right.2 ⟨hname, hdisjoint⟩)
      (hlast.congr fun n => by simp [or_left_comm])
    obtain ⟨source, hsource, htokens⟩ := hnext
    rw [levels_of_source h hseen hsource, htokens]
    dsimp only
    rw [hrest]
    cases r <;> rfl

end Levels

/-- From any tokens there is an ascent to new names that halts. -/
theorem exists_ascent (setup : Setup) (seen : List String) (tokens : List Token) :
    ∃ names below last r more, Ascent setup tokens names below last ∧ names.Nodup ∧
      names.Disjoint seen ∧ Halts setup (seen ++ names) last r more := by
  -- the recursion of `levels`, which ends because a new name with a source is seen at each step
  induction seen, tokens using levels.induct setup with
  | case1 seen tokens e h =>
    exact ⟨[], [], tokens, _, _, .start tokens, List.nodup_nil, List.disjoint_nil_left _,
      .refused h⟩
  | case2 seen tokens own h =>
    exact ⟨[], [], tokens, _, _, .start tokens, List.nodup_nil, List.disjoint_nil_left _,
      .root (takeExtends_eq_none_iff.1 h).2⟩
  | case3 seen tokens layout own h name hseen =>
    refine ⟨[], [], tokens, _, _, .start tokens, List.nodup_nil, List.disjoint_nil_left _,
      .circle (extends_iff.2 ⟨layout, h, rfl⟩) ?_⟩
    simpa using hseen
  | case4 seen tokens layout own h name hseen hsource =>
    refine ⟨[], [], tokens, _, _, .start tokens, List.nodup_nil, List.disjoint_nil_left _,
      .missing (extends_iff.2 ⟨layout, h, rfl⟩) ?_ hsource⟩
    simpa using hseen
  | case5 seen tokens layout own h name hseen source hsource e htokens =>
    refine ⟨[], [], tokens, _, _, .start tokens, List.nodup_nil, List.disjoint_nil_left _,
      .undelimited (extends_iff.2 ⟨layout, h, rfl⟩) ?_ hsource htokens⟩
    simpa using hseen
  | case6 seen tokens layout own h name hseen source hsource next htokens more asked heq ih =>
    obtain ⟨names, below, last, r, more, hascent, hnew, hdisjoint, hlast⟩ := ih
    obtain ⟨hname, hdisjoint⟩ := List.disjoint_cons_right.1 hdisjoint
    refine ⟨name :: names, own :: below, last, r, more,
      .up (extends_iff.2 ⟨layout, h, rfl⟩) ⟨source, hsource, htokens⟩ hascent,
      List.nodup_cons.2 ⟨hname, hnew⟩,
      List.disjoint_cons_left.2 ⟨by simpa using hseen, hdisjoint⟩, ?_⟩
    exact hlast.congr fun n => by simp [or_left_comm]

/-- Following the names of layouts, all new, some tokens lead back to a name that was seen. -/
def LeadsBack (setup : Setup) (seen : List String) (tokens : List Token) (name : String) : Prop :=
  ∃ names below last own, Ascent setup tokens names below last ∧ names.Nodup ∧
    names.Disjoint seen ∧ Extends setup last own name ∧ name ∈ seen ++ names

/-- Following the given names of layouts, all new, some tokens lead to a level that extends nothing;
`chain` are the tokens of all levels. -/
def LeadsToRoot (setup : Setup) (seen : List String) (tokens : List Token) (names : List String)
    (chain : List (List Token)) : Prop :=
  ∃ below last, Ascent setup tokens names below last ∧ names.Nodup ∧ names.Disjoint seen ∧
    ExtendsNothing last ∧ chain = below ++ [last]

/-- A level has no misplaced tag `extends`, and if it begins with one then this tag names a layout,
which is found and consists of tokens unless it was seen. -/
def WellFormedLevel (setup : Setup) (seen : List String) (tokens : List Token) : Prop :=
  (∀ front u, ¬ Misplaced tokens front u) ∧
    ∀ t ∈ tokens.head?, t.isTag "extends" → ∃ layout, NamesLayout setup.tags t layout ∧
      (setup.options.resolveName layout ∉ seen →
        ∃ next, Provides setup (setup.options.resolveName layout) next)

/-- The error for a circle as it is shown. -/
theorem Error.message_circular (name : String) :
    (Error.circular name).message = "circular extends of " ++ name := by
  show "circular extends of " ++ name ++ "" = _
  rw [String.append_empty]

section Circles

variable {seen : List String} {tokens : List Token} {name : String}

/-- A circle is told without a place. -/
theorem Error.not_isPlaced_circular (name : String) : ¬ (Error.circular name).IsPlaced :=
  id

/-- An error of reading one level of a chain, or of what all levels unfold to. -/
def Error.OfLevel (e : Error) : Prop :=
  e.IsPlaced ∨ e = .tooDeep

/-- An error within a level is not that of a circle. -/
theorem Error.OfLevel.ne_circular {e : Error} (h : e.OfLevel) (name : String) :
    e ≠ .circular name := by
  rintro rfl
  obtain h | h := h
  · exact Error.not_isPlaced_circular name h
  · cases h

/-- What tells its place is an error of reading a level. -/
theorem Places.ofLevel {α : Type} {r : Except Error α} (h : Places r) : Fails Error.OfLevel r :=
  fun e he => .inl (h e he)

/-- A tree that is too deep is not told as a circle. -/
theorem Template.ofLevel_ofArena (a : Arena) (root : BodyId) :
    Fails Error.OfLevel (Template.ofArena a root) := by
  unfold Template.ofArena
  split
  · exact .ok _
  · exact .error (.inr rfl)

/-- Where no factory reads a tag, reading and merging the levels does not fail with a circle. -/
theorem Template.ofLevel_ofLevels {tags : Dict TagKind} (htags : WithoutFactories tags)
    (chain : List (List Token)) : Fails Error.OfLevel (Template.ofLevels tags chain) := by
  unfold Template.ofLevels
  apply (places_mapM (Template.places_readLevel htags) chain).ofLevel.bind
  intro levels
  dsimp only
  split
  · exact ofLevel_ofArena _ _
  · split
    · exact ofLevel_ofArena _ _
    · exact .error (.inr rfl)

/-- A chain is refused as circular exactly when it leads back to a name. -/
theorem levels_eq_circular_iff (hextends : Dict.find? "extends" setup.tags = some .layout) :
    (levels setup seen tokens).1 = .error (.circular name) ↔ LeadsBack setup seen tokens name := by
  constructor
  · intro h
    obtain ⟨names, below, last, r, more, hascent, hnew, hdisjoint, hlast⟩ :=
      exists_ascent setup seen tokens
    rw [hascent.levels_eq hnew hdisjoint hlast] at h
    cases hlast with
    | root => cases h
    | refused htake =>
      cases h
      exact (Error.not_isPlaced_circular name (places_takeExtends hextends _ _ htake)).elim
    | circle hextends hseen =>
      cases h
      exact ⟨names, below, last, _, hascent, hnew, hdisjoint, hextends, hseen⟩
    | missing => cases h
    | undelimited _ _ _ htokens =>
      cases h
      exact (Error.not_isPlaced_circular name (places_tokenize _ _ _ htokens)).elim
  · rintro ⟨names, below, last, own, hascent, hnew, hdisjoint, hextends, hseen⟩
    rw [hascent.levels_eq hnew hdisjoint (.circle hextends hseen)]
    rfl

/-- A chain is found exactly when it ends at a level that extends nothing. -/
theorem levels_eq_ok_iff {chain : List (List Token)} :
    (levels setup seen tokens).1 = .ok chain ↔
      LeadsToRoot setup seen tokens (levels setup seen tokens).2 chain := by
  constructor
  · intro h
    obtain ⟨names, below, last, r, more, hascent, hnew, hdisjoint, hlast⟩ :=
      exists_ascent setup seen tokens
    rw [hascent.levels_eq hnew hdisjoint hlast] at h ⊢
    cases hlast with
    | root htake =>
      cases h
      rw [List.append_nil]
      exact ⟨below, last, hascent, hnew, hdisjoint, htake, rfl⟩
    | refused | circle | missing | undelimited => cases h
  · rintro ⟨below, last, hascent, hnew, hdisjoint, htake, rfl⟩
    rw [hascent.levels_eq hnew hdisjoint (.root htake)]
    rfl

/-- If all levels on the way are well formed, then a chain that does not lead back ends. -/
theorem leadsBack_or_leadsToRoot
    (h : ∀ names below last, Ascent setup tokens names below last → names.Nodup →
      names.Disjoint seen → WellFormedLevel setup (seen ++ names) last) :
    (∃ name, LeadsBack setup seen tokens name) ∨
      ∃ chain, LeadsToRoot setup seen tokens (levels setup seen tokens).2 chain := by
  obtain ⟨names, below, last, r, more, hascent, hnew, hdisjoint, hlast⟩ :=
    exists_ascent setup seen tokens
  obtain ⟨hplaced, hnamed⟩ := h names below last hascent hnew hdisjoint
  rw [hascent.levels_eq hnew hdisjoint hlast]
  -- a level that is well formed extends nothing or leads back
  have provided {own : List Token} {name : String} (hextends : Extends setup last own name)
      (hseen : name ∉ seen ++ names) : ∃ next, Provides setup name next := by
    obtain ⟨t, l, rfl, ht, hl, -, rfl⟩ := hextends
    obtain ⟨layout, hlayout, hfound⟩ := hnamed t rfl ht
    rw [hlayout.unique hl] at hfound
    exact hfound hseen
  cases hlast with
  | root hroot =>
    right
    refine ⟨_, below, last, ?_, ?_, ?_, hroot, rfl⟩ <;> rwa [List.append_nil]
  | refused he => exact absurd he (takeExtends_ne_error hplaced hnamed)
  | circle hextends hseen =>
    exact .inl ⟨_, names, below, last, _, hascent, hnew, hdisjoint, hextends, hseen⟩
  | missing hextends hseen hsource =>
    obtain ⟨next, source, hsome, -⟩ := provided hextends hseen
    rw [hsource] at hsome
    cases hsome
  | undelimited hextends hseen hsource htokens =>
    obtain ⟨next, source, hsome, hok⟩ := provided hextends hseen
    rw [hsource] at hsome
    cases hsome
    rw [htokens] at hok
    cases hok

/-- The names that are asked for are new, and no more than one of them is asked for in vain. -/
theorem nodup_asked (setup : Setup) (seen : List String) (tokens : List Token) :
    (levels setup seen tokens).2.Nodup ∧ (levels setup seen tokens).2.Disjoint seen ∧
      (levels setup seen tokens).2.length ≤ setup.sources.length + 1 := by
  obtain ⟨names, below, last, r, more, hascent, hnew, hdisjoint, hlast⟩ :=
    exists_ascent setup seen tokens
  rw [hascent.levels_eq hnew hdisjoint hlast]
  have hfound : names ⊆ Dict.keys setup.sources := by
    clear hnew hdisjoint hlast
    induction hascent with
    | start => exact List.nil_subset _
    | up _ hnext _ ih =>
      obtain ⟨source, hsource, -⟩ := hnext
      exact List.cons_subset.2 ⟨Dict.mem_keys_of_find? hsource, ih⟩
  have hlength : names.length ≤ setup.sources.length := by
    simpa [Dict.keys] using (hnew.subperm hfound).length_le
  have hvain (name : String) (hname : name ∉ seen ++ names) :
      (names ++ [name]).Nodup ∧ (names ++ [name]).Disjoint seen ∧
        (names ++ [name]).length ≤ setup.sources.length + 1 := by
    rw [List.mem_append, not_or] at hname
    refine ⟨?_, ?_, by simpa using hlength⟩
    · exact List.nodup_append'.2
        ⟨hnew, List.nodup_singleton name, List.disjoint_singleton.2 hname.2⟩
    · exact List.disjoint_append_left.2 ⟨hdisjoint, List.singleton_disjoint.2 hname.1⟩
  cases hlast with
  | root | refused | circle =>
    rw [List.append_nil]
    exact ⟨hnew, hdisjoint, Nat.le_succ_of_le hlength⟩
  | missing _ hseen => exact hvain _ hseen
  | undelimited _ hseen => exact hvain _ hseen

end Circles

/-- The name under which a chain must not ask for its first template: the resolved one, if the
template has a name. -/
def Setup.ownName (setup : Setup) (leaf : Option String) : List String :=
  (leaf.map setup.options.resolveName).toList

namespace Template

/-- A chain that leads back is refused whatever its levels hold. -/
theorem resolve_of_leadsBack (hextends : Dict.find? "extends" setup.tags = some .layout)
    {leaf : Option String} {tokens : List Token} {name : String}
    (h : LeadsBack setup (setup.ownName leaf) tokens name) :
    (resolve setup leaf tokens).1 = .error (.circular name) := by
  show (levels setup (setup.ownName leaf) tokens).1.bind (ofLevels setup.tags) = _
  rw [(levels_eq_circular_iff hextends).2 h]
  rfl

/-- Where no factory reads a tag, nothing else is refused as circular. -/
theorem leadsBack_of_resolve (hextends : Dict.find? "extends" setup.tags = some .layout)
    (htags : WithoutFactories setup.tags) {leaf : Option String} {tokens : List Token}
    {name : String} (h : (resolve setup leaf tokens).1 = .error (.circular name)) :
    LeadsBack setup (setup.ownName leaf) tokens name := by
  rw [← levels_eq_circular_iff hextends]
  change (levels setup (setup.ownName leaf) tokens).1.bind (ofLevels setup.tags) = _ at h
  cases hlevels : (levels setup (setup.ownName leaf) tokens).1 with
  | error e =>
    rw [hlevels] at h
    cases h
    rfl
  | ok chain =>
    rw [hlevels] at h
    exact ((ofLevel_ofLevels htags chain _ h).ne_circular name rfl).elim

/-- A chain follows the layouts that its levels extend. -/
structure FollowsLayouts (setup : Setup) (leaf : Option String) (tokens : List Token) : Prop where
  /-- No layout is asked for twice. -/
  nodup : (resolve setup leaf tokens).2.Nodup
  /-- The own name of the template is not asked for. -/
  notOwn : ∀ name ∈ leaf, setup.options.resolveName name ∉ (resolve setup leaf tokens).2
  /-- Of the names that are asked for, no more than one has no source. -/
  length : (resolve setup leaf tokens).2.length ≤ setup.sources.length + 1
  /-- The error for a circle tells the name that the chain leads back to. -/
  message : ∀ name, (Error.circular name).message = "circular extends of " ++ name
  /-- The chain is refused as circular exactly when it leads back to a name. -/
  circular : ∀ name, (levels setup (setup.ownName leaf) tokens).1 = .error (.circular name) ↔
    LeadsBack setup (setup.ownName leaf) tokens name
  /-- So is the template then. -/
  refused : ∀ name, LeadsBack setup (setup.ownName leaf) tokens name →
    (resolve setup leaf tokens).1 = .error (.circular name)
  /-- Where no factory reads a tag, nothing else is refused as circular. -/
  refusedOnly : WithoutFactories setup.tags → ∀ name,
    (resolve setup leaf tokens).1 = .error (.circular name) →
      LeadsBack setup (setup.ownName leaf) tokens name
  /-- The chain consists of the template and the layouts up to the first one that extends nothing. -/
  chain : ∀ chain, (levels setup (setup.ownName leaf) tokens).1 = .ok chain ↔
    LeadsToRoot setup (setup.ownName leaf) tokens (resolve setup leaf tokens).2 chain
  /-- If every level is well formed, then the chain leads back or ends. -/
  ends : (∀ names below last, Ascent setup tokens names below last → names.Nodup →
      names.Disjoint (setup.ownName leaf) →
        WellFormedLevel setup (setup.ownName leaf ++ names) last) →
    (∃ name, LeadsBack setup (setup.ownName leaf) tokens name) ∨
      ∃ chain, LeadsToRoot setup (setup.ownName leaf) tokens (resolve setup leaf tokens).2 chain

/-- With the tag `extends` of every engine, the layouts that some tokens extend, one after the other,
are asked for at most once each, and the own name of the template never.  The chain leads back to a
name exactly when it is refused as circular, and otherwise, if every level is well formed, it consists
of the template and the layouts up to the first one that extends nothing. -/
theorem resolve_follows_layouts {setup : Setup}
    (hextends : Dict.find? "extends" setup.tags = some .layout) (leaf : Option String)
    (tokens : List Token) : FollowsLayouts setup leaf tokens := by
  obtain ⟨hnodup, hdisjoint, hlength⟩ := nodup_asked setup (setup.ownName leaf) tokens
  refine ⟨hnodup, ?_, hlength, Error.message_circular, fun name => levels_eq_circular_iff hextends,
    fun name => resolve_of_leadsBack hextends, fun htags name => leadsBack_of_resolve hextends htags,
    fun chain => levels_eq_ok_iff, leadsBack_or_leadsToRoot⟩
  intro name hname hasked
  apply hdisjoint hasked
  simpa [Setup.ownName] using ⟨name, hname, rfl⟩

/-- Two templates that extend each other. -/
def circle : Setup :=
  { sources := [("a.liquid", "\x7b% extends 'b' %\x7d"), ("b.liquid", "\x7b% extends 'a' %\x7d")] }

/-- From one of two templates that extend each other, the other one is asked for, and the first one,
to whose name the chain leads back, is not. -/
theorem resolve_follows_layouts_circle : ∃ tokens,
    tokenize circle.options "\x7b% extends 'b' %\x7d" = .ok tokens ∧
      Dict.find? "extends" circle.tags = some .layout ∧
      (resolve circle (some "a") tokens).2 = ["b.liquid"] ∧
      LeadsBack circle (circle.ownName (some "a")) tokens "a.liquid" ∧
      FollowsLayouts circle (some "a") tokens := by
  have hcheck : (tokenize circle.options "\x7b% extends 'b' %\x7d").toOption.map (fun tokens =>
      ((resolve circle (some "a") tokens).2,
        (takeExtends circle.tags tokens).toOption.map Prod.fst)) =
      some (["b.liquid"], some (some "b")) := by
    decide +kernel
  have hcheckNext : (tokenize circle.options "\x7b% extends 'a' %\x7d").toOption.map (fun next =>
      (takeExtends circle.tags next).toOption.map Prod.fst) = some (some (some "a")) := by
    decide +kernel
  obtain ⟨tokens, htokens, hfacts⟩ := exists_ok_of_map_toOption hcheck
  obtain ⟨hasked, hlayout⟩ := Prod.mk.inj hfacts
  obtain ⟨next, hnext, hlayoutNext⟩ := exists_ok_of_map_toOption hcheckNext
  obtain ⟨⟨_, own⟩, htake, rfl⟩ := exists_ok_of_map_toOption hlayout
  obtain ⟨⟨_, ownNext⟩, htakeNext, rfl⟩ := exists_ok_of_map_toOption hlayoutNext
  have hfirst : Extends circle tokens own "b.liquid" :=
    extends_iff.2 ⟨"b", htake, by decide +kernel⟩
  have hsecond : Extends circle next ownNext "a.liquid" :=
    extends_iff.2 ⟨"a", htakeNext, by decide +kernel⟩
  have hback : LeadsBack circle (circle.ownName (some "a")) tokens "a.liquid" :=
    ⟨["b.liquid"], [own], next, ownNext, .up hfirst ⟨_, rfl, hnext⟩ (.start next),
      List.nodup_singleton _, List.singleton_disjoint.2 (by decide +kernel), hsecond,
      by decide +kernel⟩
  have hextends : Dict.find? "extends" circle.tags = some .layout := rfl
  exact ⟨tokens, htokens, hextends, hasked, hback,
    resolve_follows_layouts hextends (some "a") tokens⟩

end Template

end Stencil
