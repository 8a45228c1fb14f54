import Stencil.Proofs.Node.Places
import Stencil.Proofs.Node.Unread

/-!
# The layout that a level extends

A level extends a layout when its first token is a tag `extends` that names the layout, and no other
tag `extends` stands where it would be read (`Extends`); it extends nothing when no tag `extends`
would be read at all (`ExtendsNothing`).  A scan of the tokens finds the tags `extends` behind the
first token.  It knows what the tags `raw` and `comment` leave unread, and so it finds exactly those
that the reader would read (`lateExtends_eq_none_iff_misplaced`).  What is taken from a level are its
layout and its other tokens (`takeExtends_eq_some_iff`, `takeExtends_eq_none_iff`).
-/

set_option autoImplicit false

namespace Stencil

open Token

/-- A tag `extends` behind the first token of a level and behind some tokens that leave none unread.
-/
def Misplaced (level front : List Token) (t : Token) : Prop :=
  ∃ back, level = front ++ t :: back ∧ front ≠ [] ∧ Outside front ∧ t.isTag "extends"

/-- A tag `extends` names a layout: its argument, or what another kind of tag that was registered in
its place makes of it. -/
inductive NamesLayout (tags : Dict TagKind) (t : Token) (layout : String) : Prop
  | argument (hkind : Dict.find? "extends" tags = some .layout)
      (hname : templateName t = .ok layout) : NamesLayout tags t layout
  | replaced (hkind : Dict.find? "extends" tags ≠ some .layout) {nodes : List Node}
      (hnodes : (Stream.node { tags := tags, rest := [] } t).1 = .ok nodes)
      (hname : nodes.head?.bind Node.layout? = some layout) : NamesLayout tags t layout

/-- Some tokens extend the layout of a resolved name: they begin with a tag `extends` that names it,
and no other one is misplaced among them; `own` are the tokens without that tag. -/
def Extends (setup : Setup) (tokens own : List Token) (name : String) : Prop :=
  ∃ t layout, tokens = t :: own ∧ t.isTag "extends" ∧ NamesLayout setup.tags t layout ∧
    (∀ front u, ¬ Misplaced tokens front u) ∧ setup.options.resolveName layout = name

/-- Some tokens extend no layout: they do not begin with a tag `extends`, and none is misplaced. -/
def ExtendsNothing (tokens : List Token) : Prop :=
  (∀ t ∈ tokens.head?, ¬ t.isTag "extends") ∧ ∀ front u, ¬ Misplaced tokens front u

section Scan

variable {skipping : Option String} {first : Bool} {t : Token} {ts : List Token}

/-- The first late tag is the next token, or else the first one behind it. -/
theorem lateExtends_cons : lateExtends skipping first (t :: ts) =
    if skipping = none ∧ first = false ∧ t.isTag "extends" then some t
    else lateExtends (skip skipping t) false ts := by
  cases skipping with
  | some close => simp [lateExtends, skip]
  | none =>
    simp only [lateExtends, skip]
    by_cases hextends : t.isTag "extends"
    · simp only [isTag_of_ne hextends (by simp : "extends" ≠ "raw"),
        isTag_of_ne hextends (by simp : "extends" ≠ "comment"), hextends, Bool.false_eq_true, if_false]
      cases first <;> rfl
    · simp only [hextends, Bool.and_false, Bool.false_eq_true, and_false, if_false]
      split
      · rfl
      · split <;> rfl

/-- The scan finds nothing when each tag `extends` is left unread or is the first token. -/
theorem lateExtends_eq_none_iff : lateExtends skipping first ts = none ↔
    ∀ front t back, ts = front ++ t :: back → t.isTag "extends" →
      front.foldl skip skipping = none → first = true ∧ front = [] := by
  induction ts generalizing skipping first with
  | nil => simp [lateExtends]
  | cons s ts ih =>
    rw [lateExtends_cons]
    constructor
    · intro h front t back heq ht hfront
      split at h
      · cases h
      · next hs =>
        cases front with
        | nil =>
          cases heq
          exact ⟨by simpa [ht, show skipping = none from hfront] using hs, rfl⟩
        | cons s' front =>
          obtain ⟨rfl, rest⟩ := List.cons.inj heq
          exact absurd (ih.1 h front t back rest ht hfront).1 Bool.false_ne_true
    · intro h
      split
      · next hs =>
        obtain ⟨rfl, hfirst, hs⟩ := hs
        have := (h [] s ts rfl hs rfl).1
        rw [hfirst] at this
        cases this
      · refine ih.2 fun front t back heq ht hfront => ?_
        have := (h (s :: front) t back (heq ▸ rfl) ht hfront).2
        cases this

/-- What the scan finds is a tag `extends`, before which it finds nothing. -/
theorem exists_of_lateExtends (h : lateExtends skipping first ts = some t) :
    ∃ front back, ts = front ++ t :: back ∧ t.isTag "extends" ∧
      front.foldl skip skipping = none ∧ (first = true → front ≠ []) ∧
      lateExtends skipping first front = none := by
  induction ts generalizing skipping first with
  | nil => cases h
  | cons s ts ih =>
    rw [lateExtends_cons] at h
    split at h
    · next hs =>
      obtain ⟨rfl, rfl, hs⟩ := hs
      cases h
      exact ⟨[], ts, rfl, hs, rfl, by simp, rfl⟩
    · next hs =>
      obtain ⟨front, back, rfl, ht, hfront, -, hnone⟩ := ih h
      exact ⟨s :: front, back, rfl, ht, hfront, by simp, by rw [lateExtends_cons, if_neg hs, hnone]⟩

end Scan

section Level

variable {tags : Dict TagKind} {level own front : List Token} {layout : Option String} {t : Token}

/-- The scan finds nothing when no tag `extends` is misplaced. -/
theorem lateExtends_eq_none_iff_misplaced :
    lateExtends none true level = none ↔ ∀ front t, ¬ Misplaced level front t := by
  rw [lateExtends_eq_none_iff]
  constructor
  · rintro h front t ⟨back, heq, hne, hfront, ht⟩
    exact hne (h front t back heq ht hfront.foldl_skip).2
  · intro h front t back heq ht hfront
    refine ⟨rfl, ?_⟩
    by_contra hne
    exact h front t ⟨back, heq, hne, outside_iff.2 hfront, ht⟩

/-- With the tag `extends` of every engine, the layout is the one that its argument names. -/
theorem namesLayout_iff (hkind : Dict.find? "extends" tags = some .layout) {layout : String} :
    NamesLayout tags t layout ↔ templateName t = .ok layout := by
  constructor
  · rintro (⟨-, hname⟩ | ⟨hother, -, -⟩)
    · exact hname
    · exact absurd hkind hother
  · exact .argument hkind

/-- A tag `extends` of every engine is read alone as a node for the layout that its argument names.
-/
theorem Stream.node_extends (hkind : Dict.find? "extends" tags = some .layout)
    (ht : t.isTag "extends") : (Stream.node { tags := tags, rest := [] } t).1 =
      (templateName t).map fun layout => [Node.tag (.layout layout) [] t] := by
  obtain ⟨htag, hname⟩ := isTag_iff.1 ht
  unfold Stream.node
  simp only [Progress.begin, htag, hname, hkind, TagKind.form, TagKind.head]
  cases templateName t with
  | error e => rfl
  | ok layout =>
    show Progress.finish tags ⟨[Node.tag (.layout layout) [] t], []⟩ = _
    exact Progress.finish_of_unaided (List.forall_mem_nil _)

/-- What a first tag `extends` is read as names a layout exactly if the tag does. -/
theorem namesLayout_iff_node (ht : t.isTag "extends") {layout : String} :
    NamesLayout tags t layout ↔ ∃ nodes,
      (Stream.node { tags := tags, rest := [] } t).1 = .ok nodes ∧
        nodes.head?.bind Node.layout? = some layout := by
  by_cases hkind : Dict.find? "extends" tags = some .layout
  · rw [namesLayout_iff hkind, Stream.node_extends hkind ht]
    cases templateName t with
    | error e => simp [Except.map]
    | ok name =>
      constructor
      · rintro ⟨⟩
        exact ⟨_, rfl, rfl⟩
      · rintro ⟨_, ⟨⟩, ⟨⟩⟩
        rfl
  · constructor
    · rintro (⟨hlayout, -⟩ | ⟨-, hnodes, hname⟩)
      · exact absurd hlayout hkind
      · exact ⟨_, hnodes, hname⟩
    · rintro ⟨nodes, hnodes, hname⟩
      exact .replaced hkind hnodes hname

/-- A tag `extends` names one layout. -/
theorem NamesLayout.unique {layout layout' : String} (h : NamesLayout tags t layout)
    (h' : NamesLayout tags t layout') : layout = layout' := by
  cases h with
  | argument hkind hname =>
    rw [(namesLayout_iff hkind).1 h'] at hname
    exact (Except.ok.inj hname).symm
  | replaced hkind hnodes hname =>
    cases h' with
    | argument hkind' => exact absurd hkind' hkind
    | replaced _ hnodes' hname' =>
      rw [hnodes] at hnodes'
      cases hnodes'
      exact Option.some.inj (hname.symm.trans hname')

/-- A layout is taken from a level that begins with a tag `extends` naming it and has no other one
that would be read. -/
theorem takeExtends_eq_some_iff {layout : String} :
    takeExtends tags level = .ok (some layout, own) ↔ ∃ t, level = t :: own ∧
      t.isTag "extends" ∧ NamesLayout tags t layout ∧ ∀ front u, ¬ Misplaced level front u := by
  rw [← lateExtends_eq_none_iff_misplaced]
  unfold takeExtends
  cases hlate : lateExtends none true level with
  | some t => simp
  | none =>
    cases level with
    | nil => simp
    | cons t rest =>
      dsimp only
      split
      · next ht =>
        constructor
        · intro h
          obtain ⟨nodes, hnodes, h⟩ := ok_of_bind_eq_ok h
          split at h
          · next hname =>
            cases h
            exact ⟨t, rfl, ht, (namesLayout_iff_node ht).2 ⟨nodes, hnodes, hname⟩, rfl⟩
          · cases h
        · rintro ⟨_, ⟨⟩, -, hnames, -⟩
          obtain ⟨nodes, hnodes, hname⟩ := (namesLayout_iff_node ht).1 hnames
          rw [hnodes]
          dsimp only [bind, Except.bind]
          rw [hname]
          rfl
      · next ht =>
        constructor
        · rintro ⟨⟩
        · rintro ⟨_, ⟨⟩, ht', -⟩
          exact absurd ht' ht

/-- No layout is taken from a level without a tag `extends` that would be read. -/
theorem takeExtends_eq_none_iff :
    takeExtends tags level = .ok (none, own) ↔ own = level ∧ ExtendsNothing level := by
  unfold ExtendsNothing
  rw [← lateExtends_eq_none_iff_misplaced]
  unfold takeExtends
  cases hlate : lateExtends none true level with
  | some t => simp
  | none =>
    cases level with
    | nil =>
      constructor
      · rintro ⟨⟩
        exact ⟨rfl, by simp, rfl⟩
      · rintro ⟨rfl, -⟩
        rfl
    | cons t rest =>
      dsimp only
      split
      · next ht =>
        constructor
        · intro h
          obtain ⟨nodes, -, h⟩ := ok_of_bind_eq_ok h
          split at h <;> cases h
        · rintro ⟨-, hnot, -⟩
          exact absurd ht (hnot t rfl)
      · next ht =>
        constructor
        · rintro ⟨⟩
          exact ⟨rfl, by simpa using ht, rfl⟩
        · rintro ⟨rfl, -⟩
          rfl

/-- A level without a misplaced tag `extends` is not refused if a first one names a layout. -/
theorem takeExtends_ne_error (hplaced : ∀ front u, ¬ Misplaced level front u)
    {p : String → Prop}
    (hnamed : ∀ t ∈ level.head?, t.isTag "extends" → ∃ layout, NamesLayout tags t layout ∧ p layout)
    {e : Error} : takeExtends tags level ≠ .error e := by
  cases level with
  | nil =>
    rw [takeExtends_eq_none_iff.2 ⟨rfl, by simp, hplaced⟩]
    nofun
  | cons t rest =>
    by_cases ht : t.isTag "extends"
    · obtain ⟨layout, hlayout, -⟩ := hnamed t rfl ht
      rw [takeExtends_eq_some_iff.2 ⟨t, rfl, ht, hlayout, hplaced⟩]
      nofun
    · rw [takeExtends_eq_none_iff.2 ⟨rfl, by simpa using ht, hplaced⟩]
      nofun

/-- A level is left to the reader without the tag for its layout. -/
theorem extends_iff {setup : Setup} {name : String} : Extends setup level own name ↔
    ∃ layout, takeExtends setup.tags level = .ok (some layout, own) ∧
      setup.options.resolveName layout = name := by
  constructor
  · rintro ⟨t, layout, hlevel, ht, hnames, hnone, hname⟩
    exact ⟨layout, takeExtends_eq_some_iff.2 ⟨t, hlevel, ht, hnames, hnone⟩, hname⟩
  · rintro ⟨layout, htake, hname⟩
    obtain ⟨t, hlevel, ht, hnames, hnone⟩ := takeExtends_eq_some_iff.1 htake
    exact ⟨t, layout, hlevel, ht, hnames, hnone, hname⟩

/-- With the tag `extends` of every engine, what goes wrong with the layout of a level is told with
its place. -/
theorem places_takeExtends (hkind : Dict.find? "extends" tags = some .layout)
    (level : List Token) : Places (takeExtends tags level) := by
  unfold takeExtends
  split
  · exact places_error trivial
  · split
    · exact places_ok _
    · split
      · next t rest _ ht =>
        rw [Stream.node_extends hkind ht]
        have hname := places_templateName t
        cases hlayout : templateName t with
        | error e => exact places_error (hname e hlayout)
        | ok layout => exact places_ok _
      · exact places_ok _

end Level

end Stencil
