import Stencil.Proofs.Engine.Loading
import Stencil.Proofs.Layout.Provenance
import Stencil.Proofs.Node.Unread

/-!
# The tag for a layout

A template names its layout with its first token.  Before a level is read, a scan of its tokens looks
for a tag `extends` that stands anywhere else; it knows what the tags `raw` and `comment` leave
unread, and so it finds exactly the tags that the reader would read (`lateExtends_eq_none_iff`,
`Progress.unread?_of_run`).  A level with such a tag is refused, whatever else is wrong with it, and
the levels that are read have no tag `extends` at all; neither has an arena that they are stored in
(`Engine.parse_extends_at_front`).
-/

set_option autoImplicit false

namespace Stencil

open Token

/-- The tokens of a level behind the tag that names its layout, if it begins with one. -/
def behindLayout : List Token → List Token
  | [] => []
  | t :: rest => if t.isTag "extends" then rest else t :: rest

section Level

variable {tags : Dict TagKind} {level own front : List Token} {layout : Option String} {t : Token}

/-- A level with a misplaced tag `extends` is refused for the first one. -/
theorem takeExtends_of_misplaced (tags : Dict TagKind) (h : Misplaced level front t) : ∃ front' t',
    Misplaced level front' t' ∧
      (∀ front'' t'', Misplaced level front'' t'' → front'.length ≤ front''.length) ∧
      takeExtends tags level = .error (.atToken .lateExtends t') := by
  cases hlate : lateExtends none true level with
  | none => exact absurd h (lateExtends_eq_none_iff_misplaced.1 hlate front t)
  | some t' =>
    obtain ⟨front', back, heq, ht', hfront', hne, hnone⟩ := exists_of_lateExtends hlate
    refine ⟨front', t', ⟨back, heq, hne rfl, outside_iff.2 hfront', ht'⟩, ?_, ?_⟩
    · rintro front'' t'' ⟨back', heq', hne', hfront'', ht''⟩
      by_contra hlt
      -- an earlier one would be misplaced in front of the one that was found
      rw [heq] at heq'
      rcases List.append_eq_append_iff.1 heq' with ⟨us, rfl, -⟩ | ⟨us, rfl, hus⟩
      · simp at hlt
      · cases us with
        | nil => simp at hlt
        | cons u us =>
          cases hus
          exact lateExtends_eq_none_iff_misplaced.1 hnone front'' t'' ⟨us, rfl, hne', hfront'', ht''⟩
    · unfold takeExtends
      rw [hlate]

/-- What a level that is not refused leaves to the reader. -/
theorem of_takeExtends (h : takeExtends tags level = .ok (layout, own)) :
    (∀ front t, ¬ Misplaced level front t) ∧ own = behindLayout level := by
  unfold takeExtends at h
  split at h
  · cases h
  · next hlate =>
    refine ⟨lateExtends_eq_none_iff_misplaced.1 hlate, ?_⟩
    split at h
    · cases h
      rfl
    · next t rest =>
      split at h
      · next ht =>
        obtain ⟨nodes, -, h⟩ := ok_of_bind_eq_ok h
        split at h
        · cases h
          rw [behindLayout, if_pos ht]
        · cases h
      · next ht =>
        cases h
        rw [behindLayout, if_neg ht]

/-- The reader gets no tag `extends` that it would read. -/
theorem not_isTag_of_takeExtends (h : takeExtends tags level = .ok (layout, own)) {back : List Token}
    (hown : own = front ++ t :: back) (hfront : Outside front) : ¬ t.isTag "extends" := by
  intro ht
  obtain ⟨hnone, rfl⟩ := of_takeExtends h
  cases level with
  | nil => simp [behindLayout] at hown
  | cons s rest =>
    rw [behindLayout] at hown
    split at hown
    · next hs =>
      subst hown
      refine hnone (s :: front) t ⟨back, rfl, by simp, hfront.cons ?_, ht⟩
      exact skip_of_isTag hs (by simp) (by simp)
    · next hs =>
      cases front with
      | nil =>
        cases hown
        exact hs ht
      | cons => exact hnone _ t ⟨back, hown, by simp, hfront, ht⟩

/-- The tokens of every level of an ascent were taken from some level. -/
theorem Ascent.exists_takeExtends {setup : Setup} {tokens last : List Token} {names : List String}
    {below : List (List Token)} (h : Ascent setup tokens names below last) :
    ∀ own ∈ below, ∃ level layout, takeExtends setup.tags level = .ok (layout, own) := by
  induction h with
  | start => simp
  | up h _ _ ih =>
    obtain ⟨layout, htake, -⟩ := extends_iff.1 h
    exact List.forall_mem_cons.2 ⟨⟨_, _, htake⟩, ih⟩

/-- Every level of a chain is what is left of some tokens when the layout is taken off. -/
theorem exists_takeExtends_of_levels {setup : Setup} {seen : List String} {tokens : List Token}
    {chain : List (List Token)} (h : (levels setup seen tokens).1 = .ok chain) :
    ∀ own ∈ chain, ∃ level layout, takeExtends setup.tags level = .ok (layout, own) := by
  obtain ⟨below, last, hascent, -, -, hroot, rfl⟩ := levels_eq_ok_iff.1 h
  intro own' hmem
  rcases List.mem_append.1 hmem with hmem | hmem
  · exact hascent.exists_takeExtends own' hmem
  · rw [List.mem_singleton.1 hmem]
    exact ⟨last, none, takeExtends_eq_none_iff.2 ⟨rfl, hroot⟩⟩

end Level

namespace Template

open Arena Merging

variable {levels : List (List Node)} {t : Template}

/-- Every tag of a template is one of a level. -/
theorem exists_holds_of_cell? (hread : LevelsRead levels) (ht : mergeLevels levels = .ok t)
    {id : NodeId} {head : Head} {ids : List BodyId} {tok : Token}
    (hcell : t.arena.cell? id = some (.tag head ids tok)) :
    ∃ level ∈ levels, ∃ bodies, Node.Holds level (.tag head bodies tok) := by
  have hspec := storeLevels_spec forest_empty hread.shaped
  replace hcell : (storeLevels levels {}).1.cell? id = some (.tag head ids tok) := by
    rw [cell?, ← cells_of_mergeLevels hread ht]
    exact hcell
  obtain ⟨root, hroot, hbelow⟩ := exists_level hread.shaped (lt_of_cell? hcell)
  obtain ⟨level, hlevel, -, hnodes⟩ := exists_level_of_mem hspec.levelsAt root hroot
  obtain ⟨n, hn, hin, -⟩ := exists_holds_of_below hnodes hbelow
  cases n with
  | literal | output =>
    simp only [NodeAt] at hn
    rw [hcell] at hn
    cases hn
  | tag =>
    obtain ⟨_, hcell', -⟩ := hn
    rw [hcell] at hcell'
    cases hcell'
    exact ⟨level, hlevel, _, hin⟩

/-- Every tag of a template is read from the tokens of a level without the tag for its layout. -/
theorem exists_readFrom_of_cell? {setup : Setup} (htags : setup.tags = TagKind.builtin)
    {name : Option String} {tokens : List Token} (ht : (resolve setup name tokens).1 = .ok t)
    {id : NodeId} {head : Head} {ids : List BodyId} {tok : Token}
    (hcell : t.arena.cell? id = some (.tag head ids tok)) :
    ∃ level layout own bodies, takeExtends setup.tags level = .ok (layout, own) ∧
      (Node.tag head bodies tok).ReadFrom own := by
  rw [resolve_eq] at ht
  obtain ⟨levels, hread, ht⟩ := ok_of_bind_eq_ok ht
  obtain ⟨nodes, hnodes, bodies, hin⟩ := exists_holds_of_cell? (readChain_spec hread) ht hcell
  obtain ⟨chain, hchain, -, hlevel⟩ := exists_chain_of_readChain hread
  obtain ⟨own, hown, hreadAll, -⟩ := hlevel nodes hnodes
  obtain ⟨level, layout, htake⟩ := exists_takeExtends_of_levels hchain own hown
  rw [htags] at hreadAll
  exact ⟨level, layout, own, bodies, htake, (Node.derives_of_readAll hreadAll).readFrom hin⟩

/-- A chain that reaches a level with a misplaced tag `extends` is refused for the first one. -/
theorem resolve_of_misplaced {setup : Setup} {name : Option String} {tokens level front : List Token}
    {names : List String} {below : List (List Token)} {tok : Token}
    (hascent : Ascent setup tokens names below level) (hnew : names.Nodup)
    (hdisjoint : names.Disjoint (setup.ownName name)) (h : Misplaced level front tok) :
    ∃ front' tok', Misplaced level front' tok' ∧
      (∀ front'' tok'', Misplaced level front'' tok'' → front'.length ≤ front''.length) ∧
      (resolve setup name tokens).1 = .error (.atToken .lateExtends tok') := by
  obtain ⟨front', tok', hmisplaced, hfirst, htake⟩ := takeExtends_of_misplaced setup.tags h
  refine ⟨front', tok', hmisplaced, hfirst, ?_⟩
  have hlevels := hascent.levels_eq hnew hdisjoint (.refused htake)
  show (levels setup (setup.ownName name) tokens).1.bind (ofLevels setup.tags) = _
  rw [hlevels]
  rfl

/-- A source that extends a layout ascends to the tokens of that layout. -/
theorem exists_ascent_of_extendsSource {setup : Setup} {layout source : String} {level : List Token}
    (htake : (tokenize setup.options (extendsSource layout "")).toOption.map (fun tokens =>
      (takeExtends setup.tags tokens).toOption.map Prod.fst) = some (some (some layout)))
    (hsource : Dict.find? (setup.options.resolveName layout) setup.sources = some source)
    (hlevel : tokenize setup.options source = .ok level) : ∃ tokens own,
      tokenize setup.options (extendsSource layout "") = .ok tokens ∧
        Ascent setup tokens [setup.options.resolveName layout] [own] level := by
  obtain ⟨tokens, htokens, htake⟩ := exists_ok_of_map_toOption htake
  obtain ⟨⟨_, own⟩, htake, rfl⟩ := exists_ok_of_map_toOption htake
  have hextends : Extends setup tokens own (setup.options.resolveName layout) :=
    extends_iff.2 ⟨layout, htake, rfl⟩
  exact ⟨tokens, own, htokens, .up hextends ⟨source, hsource, hlevel⟩ (.start level)⟩

end Template

namespace Engine

/-- What is parsed is the template of the source. -/
theorem map_template_parse (e : Engine) (name : Option String) (source : String) :
    (e.parse name source).1.map Issued.template = (Template.parse e.setup name source).1 :=
  (Setup.run_parse_issue e.setup name source e.store).1

/-- With the tags of every engine, a template that is parsed has no tag `extends` in its arena, nor a
tag that names a layout.  A source is refused when it or a layout that its chain reaches has a tag
`extends` behind the first token that is not left unread, whatever else is wrong with that level; the
error is about the first one.  What the tokens before leave unread is what the reader leaves unread.
-/
theorem parse_extends_at_front (e : Engine) (htags : e.setup.tags = TagKind.builtin)
    (name : Option String) (source : String) :
    (∀ issued, (e.parse name source).1 = .ok issued → ∀ id head ids t,
      issued.template.arena.cell? id = some (.tag head ids t) →
        ¬ t.isTag "extends" ∧ head.layout? = none) ∧
    (∀ tokens names below level front t, tokenize e.options source = .ok tokens →
      Ascent e.setup tokens names below level → names.Nodup →
      names.Disjoint (e.setup.ownName name) → Misplaced level front t →
        ∃ front' t', Misplaced level front' t' ∧
          (∀ front'' t'', Misplaced level front'' t'' → front'.length ≤ front''.length) ∧
          (e.parse name source).1 = .error (.atToken .lateExtends t')) ∧
    ∀ front p, Progress.run front {} = .ok p → (Outside front ↔ p.unread? = none) := by
  have hparse := e.map_template_parse name source
  refine ⟨?_, ?_, ?_⟩
  · intro issued hissued id head ids t hcell
    rw [hissued] at hparse
    unfold Template.parse at hparse
    split at hparse
    · cases hparse
    · obtain ⟨level, layout, own, bodies, htake, ⟨front, back, hown, hfront⟩, hlayout⟩ :=
        Template.exists_readFrom_of_cell? htags hparse.symm hcell
      have hextends : ¬ t.isTag "extends" := not_isTag_of_takeExtends htake hown hfront
      refine ⟨hextends, Option.eq_none_iff_forall_ne_some.2 fun layout h => ?_⟩
      exact hextends (hlayout layout h)
  · intro tokens names below level front t htokens hascent hnew hdisjoint hmisplaced
    obtain ⟨front', t', h', hfirst, hresolve⟩ :=
      Template.resolve_of_misplaced hascent hnew hdisjoint hmisplaced
    refine ⟨front', t', h', hfirst, ?_⟩
    rw [Template.parse, show tokenize e.setup.options source = .ok tokens from htokens, hresolve]
      at hparse
    cases hissued : (e.parse name source).1 with
    | error err =>
      rw [hissued] at hparse
      cases hparse
      rfl
    | ok issued =>
      rw [hissued] at hparse
      cases hparse
  · intro front p hrun
    rw [outside_iff, Progress.unread?_of_run hrun]

/-- The source of a layout whose tag `extends` stands behind a raw text and a comment, in which such
tags are left unread, and which could not be read behind it. -/
def lateSource : String :=
  Template.tagSource "raw" ++ Template.tagSource "extends 'a'" ++ Template.tagSource "endraw" ++
    Template.tagSource "comment" ++ Template.tagSource "raw" ++ Template.tagSource "endcomment" ++
    Template.tagSource "extends 'root'" ++ Template.tagSource "endif"

/-- An engine with that layout and one that is well formed. -/
def ofLateLayout : Engine :=
  ofSources {} [("late.liquid", lateSource), ("root.liquid", Template.blockSource "a" "R")]

/-- The source of a template that has the tag in a raw text only. -/
def quotingSource : String :=
  Template.extendsSource "root"
    (Template.blockSource "a" (Template.tagSource "raw" ++ Template.tagSource "extends 'a'" ++
      Template.tagSource "endraw"))

/-- A source that only quotes the tag is read, and a layout with the tag behind a text is refused.
-/
theorem parse_extends_at_front_ofLateLayout : ofLateLayout.setup.tags = TagKind.builtin ∧
    (∃ issued, (ofLateLayout.parse none quotingSource).1 = .ok issued ∧
      issued.template.arena.cells.size = 4 ∧
      ∀ id head ids t, issued.template.arena.cell? id = some (.tag head ids t) →
        ¬ t.isTag "extends" ∧ head.layout? = none) ∧
    ∃ tokens own level front t,
      tokenize ofLateLayout.options (Template.extendsSource "late" "") = .ok tokens ∧
      Ascent ofLateLayout.setup tokens ["late.liquid"] [own] level ∧ Misplaced level front t ∧
      ∃ t', (ofLateLayout.parse none (Template.extendsSource "late" "")).1 =
        .error (.atToken .lateExtends t') := by
  have hcheck : (ofLateLayout.parse none quotingSource).1.toOption.map
      (fun issued => issued.template.arena.cells.size) = some 4 := by
    decide +kernel
  obtain ⟨issued, hissued, hsize⟩ := exists_ok_of_map_toOption hcheck
  refine ⟨rfl, ⟨issued, hissued, hsize,
    (parse_extends_at_front ofLateLayout rfl none quotingSource).1 issued hissued⟩, ?_⟩
  have hlayout : (tokenize {} lateSource).toOption.map (fun level =>
      ((level.take 6).foldl skip none, (level.take 6).length, level[6]?.map (·.isTag "extends"))) =
        some (none, 6, some true) := by
    decide +kernel
  obtain ⟨level, hlevel, hfront⟩ := exists_ok_of_map_toOption hlayout
  simp only [Prod.mk.injEq, Option.map_eq_some_iff] at hfront
  obtain ⟨hfront, hlength, t, ht, hextends⟩ := hfront
  obtain ⟨tokens, own, htokens, hascent⟩ : ∃ tokens own,
      tokenize ofLateLayout.options (Template.extendsSource "late" "") = .ok tokens ∧
        Ascent ofLateLayout.setup tokens ["late.liquid"] [own] level :=
    Template.exists_ascent_of_extendsSource (by decide +kernel) rfl hlevel
  have hmisplaced : Misplaced level (level.take 6) t := by
    obtain ⟨h, rfl⟩ := List.getElem?_eq_some_iff.1 ht
    refine ⟨level.drop 7, ?_, List.ne_nil_of_length_pos (by omega), outside_iff.2 hfront, hextends⟩
    rw [List.getElem_cons_drop, List.take_append_drop]
  obtain ⟨_, t', -, -, herror⟩ :=
    (parse_extends_at_front ofLateLayout rfl none (Template.extendsSource "late" "")).2.1 tokens _ _
      level _ t htokens hascent (List.nodup_singleton _) (List.disjoint_nil_right _) hmisplaced
  exact ⟨tokens, own, level, _, t, htokens, hascent, hmisplaced, t', herror⟩

end Engine

end Stencil
