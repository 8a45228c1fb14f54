import Stencil.Proofs.Arena.Forest
import Mathlib.Data.Set.Card

/-!
# How deep an arena goes

A body leads to the bodies of its nodes.  A body is grounded when no chain of bodies that begins
with it goes on for ever; then no body that it leads to leads back to itself
(`Arena.Grounded.acyclic`), and it leads to ever fewer bodies along each chain
(`Arena.span_lt_of_leads`).  So a chain is never longer than the bodies are many, which is as deep
as trees are unfolded, and the tree below a grounded body is read back (`Arena.exists_tree`).
-/

set_option autoImplicit false

namespace Stencil

open Relation

section Reach

variable {α : Type} {r : α → α → Prop} {x y : α}

/-- One step along a relation leaves fewer to reach, unless it leads back. -/
theorem ncard_reached_lt (hfinite : {z | TransGen r x z}.Finite) (hy : ¬ TransGen r y y)
    (h : r x y) : {z | TransGen r y z}.ncard < {z | TransGen r x z}.ncard := by
  refine Set.ncard_lt_ncard ⟨?_, ?_⟩ hfinite
  · intro z hz
    exact TransGen.head h hz
  · intro hback
    exact hy (hback (TransGen.single h))

/-- A relation that leads to finitely many and never back ends everywhere. -/
theorem acc_of_acyclic (hfinite : ∀ x, {z | TransGen r x z}.Finite)
    (hacyclic : ∀ x, ¬ TransGen r x x) (x : α) : Acc (fun y x => r x y) x := by
  generalize hn : {z | TransGen r x z}.ncard = n
  induction n using Nat.strong_induction_on generalizing x with
  | h n ih =>
    apply Acc.intro
    intro y hy
    have hless := ncard_reached_lt (hfinite x) (hacyclic y) hy
    exact ih _ (hn ▸ hless) y rfl

end Reach

namespace Arena

/-- A body leads to the bodies of its nodes. -/
def Leads (a : Arena) (b c : BodyId) : Prop :=
  ∃ id ∈ a.body b, c ∈ a.children id

/-- No chain of bodies from the body on goes on for ever. -/
def Grounded (a : Arena) (b : BodyId) : Prop :=
  Acc (fun c b => a.Leads b c) b

/-- The number of bodies that a body leads to, directly or through others. -/
noncomputable def span (a : Arena) (b : BodyId) : Nat :=
  {c | TransGen a.Leads b c}.ncard

section Span

variable {a : Arena} {b c : BodyId}

/-- What a grounded body leads to is grounded. -/
theorem Grounded.leads (h : a.Grounded b) (hc : a.Leads b c) : a.Grounded c :=
  Acc.inv h hc

/-- Whatever a grounded body leads to, over any number of steps, is grounded. -/
theorem Grounded.reflTransGen (h : a.Grounded b) (hc : ReflTransGen a.Leads b c) :
    a.Grounded c := by
  induction hc with
  | refl => exact h
  | tail _ hc ih => exact ih.leads hc

/-- A grounded body does not lead back to itself. -/
theorem Grounded.irrefl (h : a.Grounded b) : ¬ TransGen a.Leads b b := by
  induction h with
  | intro b _ ih =>
    intro hcycle
    obtain ⟨c, hc, hback⟩ := TransGen.head'_iff.1 hcycle
    exact ih c hc (TransGen.tail' hback hc)

/-- No body that a grounded body leads to leads back to itself. -/
theorem Grounded.acyclic (h : a.Grounded b) (hc : ReflTransGen a.Leads b c) :
    ¬ TransGen a.Leads c c :=
  (h.reflTransGen hc).irrefl

/-- Bodies that are led to are in range. -/
theorem lt_of_transGen (hlt : ∀ {id c}, c ∈ a.children id → c.index < a.bodies.size)
    (hc : TransGen a.Leads b c) : c.index < a.bodies.size := by
  obtain ⟨_, _, id, _, hchild⟩ := TransGen.tail'_iff.1 hc
  exact hlt hchild

/-- Only so many bodies have a number below a bound. -/
theorem finite_bodies (n : Nat) : {c : BodyId | c.index < n}.Finite ∧
    {c : BodyId | c.index < n}.ncard ≤ n := by
  classical
  have himage : {c : BodyId | c.index < n} = ((Finset.range n).image BodyId.mk : Finset BodyId) := by
    ext c
    simp only [Set.mem_ofPred_eq, Finset.coe_image, Finset.coe_range, Set.mem_image, Set.mem_Iio]
    exact ⟨fun h => ⟨c.index, h, rfl⟩, fun ⟨i, hi, e⟩ => e ▸ hi⟩
  rw [himage]
  refine ⟨Finset.finite_toSet _, ?_⟩
  rw [Set.ncard_coe_finset]
  exact Finset.card_image_le.trans (Finset.card_range n).le

/-- A body leads to no more bodies than there are. -/
theorem span_le (hlt : ∀ {id c}, c ∈ a.children id → c.index < a.bodies.size) (b : BodyId) :
    a.span b ≤ a.bodies.size := by
  obtain ⟨hfinite, hcard⟩ := finite_bodies a.bodies.size
  exact (Set.ncard_le_ncard (fun c hc => lt_of_transGen hlt hc) hfinite).trans hcard

/-- A grounded body leads to fewer bodies than any body that leads to it. -/
theorem span_lt_of_leads (hlt : ∀ {id c}, c ∈ a.children id → c.index < a.bodies.size)
    (hc : a.Grounded c) (h : a.Leads b c) : a.span c < a.span b := by
  have hfinite : {d | TransGen a.Leads b d}.Finite :=
    (finite_bodies a.bodies.size).1.subset fun d hd => lt_of_transGen hlt hd
  exact ncard_reached_lt hfinite hc.irrefl h

end Span

section Unfold

variable {a : Arena} {b : BodyId}

/-- A list is mapped if each of its entries is. -/
theorem exists_of_mapM {α β : Type} {f : α → Option β} {l : List α}
    (h : ∀ x ∈ l, ∃ y, f x = some y) : ∃ ys, l.mapM f = some ys := by
  induction l with
  | nil => exact ⟨[], rfl⟩
  | cons x l ih =>
    obtain ⟨y, hy⟩ := h x (List.mem_cons_self ..)
    obtain ⟨ys, hys⟩ := ih fun x hx => h x (List.mem_cons_of_mem _ hx)
    exact ⟨y :: ys, by rw [List.mapM_cons, hy, hys]; rfl⟩

/-- Each entry of a list that is mapped is mapped. -/
theorem exists_of_mem_mapM {α β : Type} {f : α → Option β} {l : List α} {ys : List β}
    (h : l.mapM f = some ys) {x : α} (hx : x ∈ l) : ∃ y, f x = some y := by
  induction l generalizing ys with
  | nil => cases hx
  | cons x' l ih =>
    rw [List.mapM_cons] at h
    obtain ⟨y, hy, h⟩ := Option.bind_eq_some_iff.1 h
    obtain ⟨ys', hys, -⟩ := Option.bind_eq_some_iff.1 h
    rcases List.mem_cons.1 hx with rfl | hx
    · exact ⟨y, hy⟩
    · exact ih hys hx

/-- A grounded body is unfolded by a depth that is more than the bodies it leads to. -/
theorem exists_unfold (hlt : ∀ {id c}, c ∈ a.children id → c.index < a.bodies.size)
    (hcell : ∀ {b id}, id ∈ a.body b → ∃ c, a.cell? id = some c) {n : Nat} (hb : a.Grounded b)
    (hn : a.span b < n) : ∃ nodes, a.unfold n b = some nodes := by
  induction n generalizing b with
  | zero => exact absurd hn (Nat.not_lt_zero _)
  | succ n ih =>
    rw [unfold_succ]
    refine exists_of_mapM fun id hid => ?_
    obtain ⟨c, hc⟩ := hcell hid
    have hinner : ∀ d ∈ c.bodies, ∃ nodes, a.unfold n d = some nodes := by
      intro d hd
      have hleads : a.Leads b d := ⟨id, hid, by rwa [children_of_cell? hc]⟩
      have hless := span_lt_of_leads hlt (hb.leads hleads) hleads
      exact ih (hb.leads hleads) (by omega)
    unfold readNode
    rw [hc]
    cases c with
    | literal t => exact ⟨_, rfl⟩
    | output o t => exact ⟨_, rfl⟩
    | tag head bodies t =>
      obtain ⟨bodies', hbodies⟩ := exists_of_mapM hinner
      exact ⟨.tag head bodies' t, by simp only [Cell.bodies] at hbodies; simp [hbodies]⟩

/-- The tree below a grounded body is read back. -/
theorem exists_tree (hlt : ∀ {id c}, c ∈ a.children id → c.index < a.bodies.size)
    (hcell : ∀ {b id}, id ∈ a.body b → ∃ c, a.cell? id = some c) (hb : a.Grounded b) :
    ∃ nodes, a.tree? b = some nodes :=
  exists_unfold hlt hcell hb (Nat.lt_succ_of_le (span_le hlt b))

/-- What is read for each of some handles is stored at them. -/
theorem nodesAt_of_mapM {f : NodeId → Option Node} (hf : ∀ id n, f id = some n → NodeAt a id n)
    {ids : List NodeId} {nodes : List Node} (h : ids.mapM f = some nodes) :
    NodesAt a ids nodes := by
  induction ids generalizing nodes with
  | nil =>
    cases h
    exact (nodesAt_nil ..).2 rfl
  | cons id ids ih =>
    rw [List.mapM_cons] at h
    obtain ⟨n, hn, h⟩ := Option.bind_eq_some_iff.1 h
    obtain ⟨rest, hrest, h⟩ := Option.bind_eq_some_iff.1 h
    cases h
    exact (nodesAt_cons ..).2 ⟨hf id n hn, ih hrest⟩

/-- What is read for each of some bodies is stored there. -/
theorem bodiesAt_of_mapM {f : BodyId → Option (List Node)}
    (hf : ∀ b body, f b = some body → NodesAt a (a.body b) body) {ids : List BodyId}
    {bodies : List (List Node)} (h : ids.mapM f = some bodies) : BodiesAt a ids bodies := by
  induction ids generalizing bodies with
  | nil =>
    cases h
    exact (bodiesAt_nil ..).2 rfl
  | cons id ids ih =>
    rw [List.mapM_cons] at h
    obtain ⟨body, hbody, h⟩ := Option.bind_eq_some_iff.1 h
    obtain ⟨rest, hrest, h⟩ := Option.bind_eq_some_iff.1 h
    cases h
    exact (bodiesAt_cons ..).2 ⟨hf id body hbody, ih hrest⟩

/-- The trees that are unfolded from a body are stored there. -/
theorem nodesAt_of_unfold {n : Nat} {nodes : List Node} (h : a.unfold n b = some nodes) :
    NodesAt a (a.body b) nodes := by
  induction n generalizing b nodes with
  | zero => simp [unfold] at h
  | succ n ih =>
    rw [unfold_succ] at h
    refine nodesAt_of_mapM (fun id node hnode => ?_) h
    unfold readNode at hnode
    split at hnode
    · cases hnode
    · next t hcell => cases hnode; exact hcell
    · next o t hcell => cases hnode; exact hcell
    · next head ids t hcell =>
      obtain ⟨bodies, hbodies, rfl⟩ := Option.map_eq_some_iff.1 hnode
      exact ⟨ids, hcell, bodiesAt_of_mapM (fun b body hbody => ih hbody) hbodies⟩

/-- A body whose tree is unfolded is grounded. -/
theorem grounded_of_unfold {n : Nat} {nodes : List Node} (h : a.unfold n b = some nodes) :
    a.Grounded b := by
  induction n generalizing b nodes with
  | zero => simp [unfold] at h
  | succ n ih =>
    refine Acc.intro b fun c hc => ?_
    obtain ⟨id, hid, hchild⟩ := hc
    rw [unfold_succ] at h
    obtain ⟨node, hnode⟩ := exists_of_mem_mapM h hid
    unfold readNode at hnode
    split at hnode
    · cases hnode
    · next t hcell => simp [children_of_cell? hcell, Cell.bodies] at hchild
    · next o t hcell => simp [children_of_cell? hcell, Cell.bodies] at hchild
    · next head ids t hcell =>
      rw [children_of_cell? hcell] at hchild
      obtain ⟨bodies, hbodies, -⟩ := Option.map_eq_some_iff.1 hnode
      obtain ⟨body, hbody⟩ := exists_of_mem_mapM hbodies hchild
      exact ih hbody

end Unfold

end Arena

end Stencil
