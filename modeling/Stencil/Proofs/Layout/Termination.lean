import Stencil.Proofs.Layout.Provenance

/-!
# Which merges end

The walk of a merge goes into bodies that it has just changed, so neither the trees of the levels
nor the arena get smaller along it.  What gets smaller are the names: the nodes of a block were
stored in a block of its name (`Merging.Sourced`), so the blocks inside of them have names that some
level nests in that name (`Template.exists_nested_of_owns`).  Where no name leads back to itself the
walk into the blocks of a name ends (`Merging.ends_of_acyclicNesting`), and with it the merge of the
chain, and the tree of its template is finite (`Template.resolve_of_acyclicNesting`).
-/

set_option autoImplicit false

namespace Stencil

open Relation

/-- A block has finitely many others in it, over all levels. -/
theorem Node.finite_nested (levels : List (List Node)) (x : String) :
    {y | TransGen (Nests levels) x y}.Finite := by
  apply ((levels.flatMap nestingsAll).map Prod.snd).finite_toSet.subset
  intro y hy
  obtain ⟨w, -, hw⟩ := TransGen.tail'_iff.1 hy
  exact List.mem_map_of_mem (f := Prod.snd) hw

namespace Template

open Arena

/-- What stands in a block holds only blocks that its level nests in it. -/
theorem exists_nested_of_owns {levels : List (List Node)} (hread : LevelsRead levels)
    {x : String} {b : BodyId} (hb : Owns (storeLevels levels {}).1 x b) {id : NodeId}
    (hid : id ∈ (storeLevels levels {}).1.body b) :
    ∃ n, NodeAt (storeLevels levels {}).1 id n ∧ Node.Shaped n ∧
      ∀ y ∈ Node.names n, Node.Nests levels x y := by
  have hspec := storeLevels_spec forest_empty hread.shaped
  obtain ⟨outer, hblock⟩ := hb
  obtain ⟨r, hr, hbelow⟩ := exists_level_of_block? hread.shaped hblock
  obtain ⟨level, hlevel, -, hnodes⟩ := exists_level_of_mem hspec.levelsAt r hr
  have hchild := hspec.forest.mem_children hblock
  obtain ⟨n, hn, hin, -⟩ := exists_holds_of_below hnodes hbelow
  have hshaped := hin.shaped (hread.shaped level hlevel)
  obtain ⟨head, bodies, t, rfl, body, hbody, hnodes, -⟩ := exists_of_mem_children hn hchild
  obtain ⟨inner, hmem, hinner, -⟩ := exists_of_mem_nodesAt hnodes hid
  have hhead := head_block_of_nodeAt hn hblock
  have hbodyShaped := Node.shapedInBodies_iff.1 hshaped.2 body hbody
  refine ⟨inner, hinner, Node.shapedAll_iff_forall.1 hbodyShaped inner hmem, ?_⟩
  intro y hy
  have hy : y ∈ Node.namesInBodies bodies := by
    rw [Node.namesInBodies_eq_flatMap]
    refine List.mem_flatMap.2 ⟨body, hbody, ?_⟩
    rw [Node.namesAll_eq_flatMap]
    exact List.mem_flatMap.2 ⟨inner, hmem, hy⟩
  have hpair : (x, y) ∈ Node.nestings (.tag head bodies t) := by
    simp only [Node.nestings, hhead]
    apply List.mem_append_left
    simpa using hy
  exact List.mem_flatMap.2 ⟨level, hlevel, hin.nestings_subset hpair⟩

end Template

namespace Merging

open Arena

/-- A walk over the task ends, whatever blocks have been merged before. -/
def Walks (a : Arena) (t : Task) : Prop :=
  ∀ m, Over a m → Sourced a m → ∃ vs m', Run [t] m vs m'

/-- A walk over a block of the name ends. -/
def Ends (a : Arena) (x : String) : Prop :=
  ∀ own, Owns a x own → Walks a (.body own)

section Walks

variable {a : Arena}

/-- Tasks whose walks end are walked over one after the other. -/
theorem exists_run_of_walks (ha : Forest a) {tasks : List Task} (h : ∀ t ∈ tasks, Walks a t)
    {m : Merging} (hm : Over a m) (hs : Sourced a m) : ∃ vs m', Run tasks m vs m' := by
  induction tasks generalizing m with
  | nil => exact ⟨[], m, .done m⟩
  | cons t tasks ih =>
    obtain ⟨us, m₁, hfirst⟩ := h t (List.mem_cons_self ..) m hm hs
    have howns := hfirst.owns ha hm
    have hend := hfirst.settleAll
    have hm₁ : Over a m₁ := hend ▸ hm.settleAll ha howns
    have hs₁ : Sourced a m₁ := hend ▸ hs.settleAll ha hm howns
    obtain ⟨vs, m', hrest⟩ := ih (fun t ht => h t (List.mem_cons_of_mem _ ht)) hm₁ hs₁
    exact ⟨us ++ vs, m', hfirst.append hrest⟩

/-- A walk over the body of no block ends if those over its nodes do. -/
theorem walks_of_plain (ha : Forest a) {b : BodyId} (hb : ∀ x, ¬ Owns a x b)
    (h : ∀ id ∈ a.body b, Walks a (.node id)) : Walks a (.body b) := by
  intro m hm hs
  have htasks : ∀ t ∈ (m.arena.body b).map Task.node, Walks a t := by
    intro t ht
    obtain ⟨id, hid, rfl⟩ := List.mem_map.1 ht
    rw [hm.plain hb] at hid
    exact h id hid
  obtain ⟨vs, m', hrun⟩ := exists_run_of_walks ha htasks hm hs
  refine ⟨vs, m', .body ?_⟩
  rw [List.append_nil]
  exact hrun

/-- A walk over a tag that is no block ends if those over its bodies do. -/
theorem walks_of_tag (ha : Forest a) {id : NodeId} (hid : a.block? id = none)
    (h : ∀ b ∈ a.children id, Walks a (.body b)) : Walks a (.node id) := by
  intro m hm hs
  have htasks : ∀ t ∈ (a.children id).map Task.body, Walks a t := by
    intro t ht
    obtain ⟨b, hb, rfl⟩ := List.mem_map.1 ht
    exact h b hb
  obtain ⟨vs, m', hrun⟩ := exists_run_of_walks ha htasks hm hs
  refine ⟨vs, m', .tag (hm.block? ▸ hid) ?_⟩
  rw [hm.children, List.append_nil]
  exact hrun

/-- A walk over a block ends if every walk over a block of its name does. -/
theorem walks_of_block (ha : Forest a) {id : NodeId} {x : String} {own : BodyId}
    (hid : a.block? id = some (x, own)) (h : Ends a x) : Walks a (.node id) := by
  intro m hm hs
  have hown : Owns a x own := ⟨id, hid⟩
  have hstep := settle_spec ha hm hown
  obtain ⟨vs, m', hrun⟩ := h own hown (m.settle x own) hstep.isOver (hs.settle ha hm hown)
  cases hrun with
  | body hrun => exact ⟨(x, own) :: vs, m', .block (hm.block? ▸ hid) hrun⟩

mutual

/-- A walk over a stored tree ends when the walks over its blocks end. -/
theorem walks_of_nodeAt (ha : Forest a) {id : NodeId} {n : Node} (hn : NodeAt a id n)
    (hs : Node.Shaped n) (h : ∀ y ∈ Node.names n, Ends a y) : Walks a (.node id) := by
  cases n with
  | literal t =>
    apply walks_of_tag ha
    · rw [block?_of_cell? hn]
      rfl
    · simp [children_of_cell? hn, Cell.bodies]
  | output o t =>
    apply walks_of_tag ha
    · rw [block?_of_cell? hn]
      rfl
    · simp [children_of_cell? hn, Cell.bodies]
  | tag head bodies t =>
    simp only [Node.names, List.mem_append, Option.mem_toList] at h
    cases hblock : a.block? id with
    | some v =>
      obtain ⟨x, own⟩ := v
      apply walks_of_block ha hblock
      exact h x (.inl (head_block_of_nodeAt hn hblock))
    | none =>
      obtain ⟨ids, hcell, hbodies⟩ := hn
      apply walks_of_tag ha hblock
      have hplain : ∀ b ∈ a.children id, ∀ x, ¬ Owns a x b := fun b hb =>
        ha.not_owns_of_mem_children hb hblock
      rw [children_of_cell? hcell] at hplain ⊢
      exact walks_of_bodiesAt ha hbodies hs.2 hplain fun y hy => h y (.inr hy)

/-- A walk over stored nodes ends if those over blocks of their names do. -/
theorem walks_of_nodesAt (ha : Forest a) {ids : List NodeId} {nodes : List Node}
    (hn : NodesAt a ids nodes) (hs : Node.ShapedAll nodes)
    (h : ∀ y ∈ Node.namesAll nodes, Ends a y) : ∀ id ∈ ids, Walks a (.node id) := by
  cases nodes with
  | nil => simp [(nodesAt_nil a ids).1 hn]
  | cons n rest =>
    simp only [NodesAt] at hn
    obtain ⟨id, others, rfl, hn, hrest⟩ := hn
    simp only [Node.namesAll, List.mem_append] at h
    refine List.forall_mem_cons.2 ⟨?_, ?_⟩
    · exact walks_of_nodeAt ha hn hs.1 fun y hy => h y (.inl hy)
    · exact walks_of_nodesAt ha hrest hs.2 fun y hy => h y (.inr hy)

/-- A walk over stored bodies ends if those over blocks of their names do. -/
theorem walks_of_bodiesAt (ha : Forest a) {ids : List BodyId} {bodies : List (List Node)}
    (hn : BodiesAt a ids bodies) (hs : Node.ShapedInBodies bodies)
    (hplain : ∀ b ∈ ids, ∀ x, ¬ Owns a x b) (h : ∀ y ∈ Node.namesInBodies bodies, Ends a y) :
    ∀ b ∈ ids, Walks a (.body b) := by
  cases bodies with
  | nil => simp [(bodiesAt_nil a ids).1 hn]
  | cons body rest =>
    simp only [BodiesAt] at hn
    obtain ⟨b, others, rfl, hbody, hrest⟩ := hn
    obtain ⟨hb, hothers⟩ := List.forall_mem_cons.1 hplain
    simp only [Node.namesInBodies, List.mem_append] at h
    refine List.forall_mem_cons.2 ⟨?_, ?_⟩
    · apply walks_of_plain ha hb
      exact walks_of_nodesAt ha hbody hs.1 fun y hy => h y (.inl hy)
    · exact walks_of_bodiesAt ha hrest hs.2 hothers fun y hy => h y (.inr hy)

end

end Walks

/-- Where no name leads back to itself the walk into the blocks of any name ends. -/
theorem ends_of_acyclicNesting {levels : List (List Node)} (hread : Template.LevelsRead levels)
    (h : Node.AcyclicNesting levels) (x : String) :
    Ends (Template.storeLevels levels {}).1 x := by
  have ha := (Template.storeLevels_spec forest_empty hread.shaped).forest
  induction acc_of_acyclic (Node.finite_nested levels) h x with
  | intro x _ ih =>
    intro own hown m hm hs
    have htasks : ∀ t ∈ (m.arena.body own).map Task.node,
        Walks (Template.storeLevels levels {}).1 t := by
      intro t ht
      obtain ⟨id, hid, rfl⟩ := List.mem_map.1 ht
      -- the node was stored in a block of the name
      obtain ⟨c, hc, hid⟩ := hs x own id hown hid
      obtain ⟨n, hn, hshaped, hnested⟩ := Template.exists_nested_of_owns hread hc hid
      exact walks_of_nodeAt ha hn hshaped fun y hy => ih y (hnested y hy)
    obtain ⟨vs, m', hrun⟩ := exists_run_of_walks ha htasks hm hs
    refine ⟨vs, m', .body ?_⟩
    rw [List.append_nil]
    exact hrun

end Merging

namespace Template

open Arena Merging

/-- Where no name leads back to itself the merge of the levels ends. -/
theorem exists_mergeLog_of_acyclicNesting {levels : List (List Node)} (hread : LevelsRead levels)
    (h : Node.AcyclicNesting levels) : ∃ a earlier last, MergeLog levels a earlier last := by
  have hspec := storeLevels_spec forest_empty hread.shaped
  have hends := ends_of_acyclicNesting hread h
  have ha := hspec.forest
  have hroots : ∀ r ∈ (storeLevels levels {}).2, Walks (storeLevels levels {}).1 (.body r) := by
    intro r hr
    obtain ⟨level, hlevel, hfree, hnodes⟩ := exists_level_of_mem hspec.levelsAt r hr
    apply walks_of_plain ha (ha.not_owns_of_free hfree)
    exact walks_of_nodesAt ha hnodes (hread.shaped level hlevel) fun y _ => hends y
  have hlength := length_storeLevels levels {}
  cases hstored : storeLevels levels {} with
  | mk a roots =>
    rw [hstored] at ha hroots hlength
    have hne : roots ≠ [] := by
      rintro rfl
      exact hread.ne_nil (List.length_eq_zero_iff.1 hlength.symm)
    rw [← List.dropLast_concat_getLast hne] at hstored hroots
    generalize roots.dropLast = lower at hstored hroots
    generalize roots.getLast hne = root at hstored hroots
    by_cases hlower : lower = []
    · subst hlower
      exact ⟨a, [], [], .single hstored⟩
    · have htasks : ∀ t ∈ lower.map Task.body ++ [Task.body root], Walks a t := by
        intro t ht
        rcases List.mem_append.1 ht with ht | ht
        · obtain ⟨r, hr, rfl⟩ := List.mem_map.1 ht
          exact hroots r (List.mem_append_left _ hr)
        · rw [List.mem_singleton.1 ht]
          exact hroots root (by simp)
      obtain ⟨vs, m', hrun⟩ := exists_run_of_walks ha htasks (Over.start a) (Sourced.start a)
      obtain ⟨earlier, last, m, -, hearlier, hlast⟩ := hrun.split
      exact ⟨a, earlier, last, .chain hstored hlower hearlier hlast⟩

/-- Where no name leads back to itself, the merge ends, no body that the root of the template leads
to leads back to itself, and what is below the root is the finite tree of the template. -/
theorem resolve_of_acyclicNesting {setup : Setup} {name : Option String} {tokens : List Token}
    {levels : List (List Node)} (hread : readChain setup name tokens = .ok levels)
    (h : Node.AcyclicNesting levels) :
    ∃ a earlier last t, MergeLog levels a earlier last ∧ (resolve setup name tokens).1 = .ok t ∧
      t.arena = (settleAll { arena := a } (earlier ++ last)).arena ∧
      (∀ b, ReflTransGen t.arena.Leads t.root b → ¬ TransGen t.arena.Leads b b) ∧
      t.arena.NodesAt (t.arena.body t.root) t.nodes := by
  have hlevels := readChain_spec hread
  obtain ⟨a, earlier, last, hlog⟩ := exists_mergeLog_of_acyclicNesting hlevels h
  obtain ⟨t, ht, harena⟩ := exists_ok_of_mergeLog hlevels hlog
  refine ⟨a, earlier, last, t, hlog, ?_, harena, ?_, nodesAt_of_unfold t.tree?_root⟩
  · rw [resolve_eq, hread]
    exact ht
  · intro b hb
    exact (grounded_root t).acyclic hb

/-- Blocks that only one of the layouts nests are not nested in a circle, and the merge ends. -/
theorem resolve_of_acyclicNesting_addingToFirst : ∃ levels,
    readChain nestingFirst none addingToFirst = .ok levels ∧ Node.AcyclicNesting levels ∧
      ∃ a earlier last t, MergeLog levels a earlier last ∧
        (resolve nestingFirst none addingToFirst).1 = .ok t ∧
        t.arena = (settleAll { arena := a } (earlier ++ last)).arena ∧
        (∀ b, ReflTransGen t.arena.Leads t.root b → ¬ TransGen t.arena.Leads b b) ∧
        t.arena.NodesAt (t.arena.body t.root) t.nodes := by
  have hnestings : (readChain nestingFirst none addingToFirst).toOption.map
      (fun levels => levels.flatMap Node.nestingsAll) = some [("a", "b")] := by
    decide +kernel
  obtain ⟨levels, hread, hnestings⟩ := exists_ok_of_map_toOption hnestings
  have hacyclic : Node.AcyclicNesting levels := by
    apply Node.acyclicNesting_of_no_path
    rw [hnestings]
    decide
  exact ⟨levels, hread, hacyclic, resolve_of_acyclicNesting hread hacyclic⟩

end Template

end Stencil
