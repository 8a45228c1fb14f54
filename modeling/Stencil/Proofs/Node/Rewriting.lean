import Stencil.Layout.Merge
import Stencil.Proofs.Layout.Overlay
import Stencil.Proofs.Node.Nesting

/-!
# Rewriting the blocks of a tree

What a layout becomes when some of its blocks are overridden (`Node.Rewrites`): from the outside in,
the content that overrides a block becomes its body, with what the layout has there in the place of
the first mark, and the rewriting goes on inside the new body.  A tree is rewritten in one way only
(`Node.Rewrites.unique`), and a tree none of whose blocks is overridden stays as it is
(`Node.rewrites_self`).
-/

set_option autoImplicit false

namespace Stencil.Node

mutual

/-- Rewriting a node with the contents that override blocks. -/
inductive RewritesNode (contents : String → Option (List Node)) : Node → Node → Prop
  | literal (t : Token) : RewritesNode contents (.literal t) (.literal t)
  | output (o : Output) (t : Token) : RewritesNode contents (.output o t) (.output o t)
  | overridden {head : Head} {x : String} {content kids kids' : List Node} {t : Token}
      (hx : head.block? = some x) (hover : contents x = some content)
      (hkids : Rewrites contents (substFirst isBlockSuper kids content) kids') :
      RewritesNode contents (.tag head [kids] t) (.tag head [kids'] t)
  | kept {head : Head} {bodies bodies' : List (List Node)} {t : Token}
      (hkept : ∀ x, head.block? = some x → contents x = none)
      (hbodies : RewritesBodies contents bodies bodies') :
      RewritesNode contents (.tag head bodies t) (.tag head bodies' t)

/-- Rewriting some nodes. -/
inductive Rewrites (contents : String → Option (List Node)) : List Node → List Node → Prop
  | nil : Rewrites contents [] []
  | cons {n n' : Node} {rest rest' : List Node} (hn : RewritesNode contents n n')
      (hrest : Rewrites contents rest rest') : Rewrites contents (n :: rest) (n' :: rest')

/-- Rewriting some bodies. -/
inductive RewritesBodies (contents : String → Option (List Node)) :
    List (List Node) → List (List Node) → Prop
  | nil : RewritesBodies contents [] []
  | cons {body body' : List Node} {rest rest' : List (List Node)}
      (hbody : Rewrites contents body body') (hrest : RewritesBodies contents rest rest') :
      RewritesBodies contents (body :: rest) (body' :: rest')

end

section Rewriting

variable {contents : String → Option (List Node)}

mutual

/-- A node is rewritten in one way only. -/
theorem RewritesNode.unique {n n₁ n₂ : Node} (h₁ : RewritesNode contents n n₁)
    (h₂ : RewritesNode contents n n₂) : n₁ = n₂ := by
  cases h₁ with
  | literal => cases h₂; rfl
  | output => cases h₂; rfl
  | overridden hx hover hkids =>
    cases h₂ with
    | overridden hx' hover' hkids' =>
      cases hx.symm.trans hx'
      cases hover.symm.trans hover'
      rw [hkids.unique hkids']
    | kept hkept => exact absurd (hkept _ hx) (by simp [hover])
  | kept hkept hbodies =>
    cases h₂ with
    | overridden hx hover => exact absurd (hkept _ hx) (by simp [hover])
    | kept _ hbodies' => rw [hbodies.unique hbodies']

/-- Nodes are rewritten to one result. -/
theorem Rewrites.unique {nodes l₁ l₂ : List Node} (h₁ : Rewrites contents nodes l₁)
    (h₂ : Rewrites contents nodes l₂) : l₁ = l₂ := by
  cases h₁ with
  | nil => cases h₂; rfl
  | cons hn hrest =>
    cases h₂ with
    | cons hn' hrest' => rw [hn.unique hn', hrest.unique hrest']

/-- Bodies are rewritten to one result. -/
theorem RewritesBodies.unique {bodies l₁ l₂ : List (List Node)}
    (h₁ : RewritesBodies contents bodies l₁)
    (h₂ : RewritesBodies contents bodies l₂) : l₁ = l₂ := by
  cases h₁ with
  | nil => cases h₂; rfl
  | cons hbody hrest =>
    cases h₂ with
    | cons hbody' hrest' => rw [hbody.unique hbody', hrest.unique hrest']

end

mutual

/-- A node none of whose blocks is overridden stays as it is. -/
theorem rewritesNode_self {n : Node} (h : ∀ x ∈ names n, contents x = none) :
    RewritesNode contents n n := by
  cases n with
  | literal t => exact .literal t
  | output o t => exact .output o t
  | tag head bodies t =>
    simp only [names, List.mem_append, Option.mem_toList] at h
    exact .kept (fun x hx => h x (.inl hx)) (rewritesBodies_self fun x hx => h x (.inr hx))

/-- Nodes none of whose blocks is overridden stay as they are. -/
theorem rewrites_self {nodes : List Node} (h : ∀ x ∈ namesAll nodes, contents x = none) :
    Rewrites contents nodes nodes := by
  cases nodes with
  | nil => exact .nil
  | cons n rest =>
    simp only [namesAll, List.mem_append] at h
    exact .cons (rewritesNode_self fun x hx => h x (.inl hx))
      (rewrites_self fun x hx => h x (.inr hx))

/-- Bodies none of whose blocks is overridden stay as they are. -/
theorem rewritesBodies_self {bodies : List (List Node)}
    (h : ∀ x ∈ namesInBodies bodies, contents x = none) :
    RewritesBodies contents bodies bodies := by
  cases bodies with
  | nil => exact .nil
  | cons body rest =>
    simp only [namesInBodies, List.mem_append] at h
    exact .cons (rewrites_self fun x hx => h x (.inl hx))
      (rewritesBodies_self fun x hx => h x (.inr hx))

end

/-- Nodes are rewritten in two parts. -/
theorem Rewrites.append {l₁ l₁' l₂ l₂' : List Node} (h₁ : Rewrites contents l₁ l₁')
    (h₂ : Rewrites contents l₂ l₂') : Rewrites contents (l₁ ++ l₂) (l₁' ++ l₂') := by
  induction l₁ generalizing l₁' with
  | nil =>
    cases h₁
    exact h₂
  | cons n rest ih =>
    cases h₁ with
    | cons hn hrest => exact .cons hn (ih hrest)

/-- What a content without blocks takes in is rewritten where it stands. -/
theorem Rewrites.substFirst {kids kids' content : List Node} (h : Rewrites contents kids kids')
    (hnames : namesAll content = []) :
    Rewrites contents (substFirst isBlockSuper kids content)
      (Stencil.substFirst isBlockSuper kids' content) := by
  induction content with
  | nil => exact .nil
  | cons c rest ih =>
    simp only [namesAll, List.append_eq_nil_iff] at hnames
    simp only [Stencil.substFirst]
    split
    · exact h.append (rewrites_self (by simp [hnames.2]))
    · exact .cons (rewritesNode_self (by simp [hnames.1])) (ih hnames.2)

end Rewriting

/-- A block that is there when a mark was replaced was there before or replaces the mark. -/
theorem mem_namesAll_substFirst {kids content : List Node} {x : String}
    (h : x ∈ namesAll (substFirst isBlockSuper kids content)) :
    x ∈ namesAll content ∨ x ∈ namesAll kids := by
  induction content with
  | nil => simp [substFirst, namesAll] at h
  | cons c rest ih =>
    simp only [substFirst] at h
    simp only [namesAll, List.mem_append]
    split at h
    · rw [namesAll_append, List.mem_append] at h
      rcases h with h | h
      · exact .inr h
      · exact .inl (.inr h)
    · simp only [namesAll, List.mem_append] at h
      rcases h with h | h
      · exact .inl (.inl h)
      · exact (ih h).imp_left .inr

/-- Replacing a mark makes nodes no higher than what replaces it. -/
theorem heightAll_substFirst_le (kids content : List Node) :
    heightAll (substFirst isBlockSuper kids content) ≤
      max (heightAll content) (heightAll kids) := by
  induction content with
  | nil => simp [substFirst, heightAll]
  | cons c rest ih =>
    simp only [substFirst, heightAll]
    split
    · rw [heightAll_append]
      omega
    · simp only [heightAll]
      omega

end Stencil.Node
