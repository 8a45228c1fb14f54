import Stencil.Node.Stream
import Stencil.Token.Trim

/-!
# Chains of layouts

A template whose first token is a tag `extends` is rendered through the layout it names, which may
extend a further one.  Each layout is asked for once, so a chain that leads back to a template it
holds is refused, and a chain is never longer than the sources are many.
-/

set_option autoImplicit false

namespace Stencil

/-- What templates are read with. -/
structure Setup where
  options : Options := {}
  tags : Dict TagKind := TagKind.builtin
  /-- The sources of templates under their names. -/
  sources : Dict String := []

/-- The first tag `extends` behind the first token that is not inside a raw text or a comment;
`skipping` is the tag that ends the one that is open. -/
def lateExtends (skipping : Option String) (first : Bool) : List Token → Option Token
  | [] => none
  | t :: rest =>
    match skipping with
    | some close => lateExtends (if t.isTag close then none else some close) false rest
    | none =>
      if t.isTag "raw" then lateExtends (some "endraw") false rest
      else if t.isTag "comment" then lateExtends (some "endcomment") false rest
      else if !first && t.isTag "extends" then some t
      else lateExtends none false rest

/-- The layout that some tokens extend, and the tokens without the tag that names it. -/
def takeExtends (tags : Dict TagKind) (tokens : List Token) :
    Except Error (Option String × List Token) :=
  match lateExtends none true tokens with
  | some t => .error (.atToken .lateExtends t)
  | none =>
    match tokens with
    | [] => .ok (none, [])
    | t :: rest =>
      if t.isTag "extends" then do
        let nodes ← (Stream.node { tags := tags, rest := [] } t).1
        match nodes.head?.bind Node.layout? with
        | some layout => return (some layout, rest)
        | none => throw (.assertion .noLayoutNamed)
      else .ok (none, t :: rest)

/-- The names of sources that were not seen yet. -/
def unseen (sources : Dict String) (seen : List String) : List String :=
  (Dict.keys sources).filter fun name => !seen.contains name

/-- Seeing the name of a source that was unseen leaves fewer unseen. -/
theorem length_unseen_lt {sources : Dict String} {seen : List String} {name source : String}
    (hs : seen.contains name = false) (h : Dict.find? name sources = some source) :
    (unseen sources (name :: seen)).length < (unseen sources seen).length := by
  have fewer (names : List String) :
      (names.filter fun n => !(name :: seen).contains n).length ≤
        (names.filter fun n => !seen.contains n).length := by
    rw [← List.countP_eq_length_filter, ← List.countP_eq_length_filter]
    exact List.countP_mono_left fun n _ hn => by
      simp only [List.contains_cons, Bool.not_or, Bool.and_eq_true] at hn
      exact hn.2
  have hmem := Dict.mem_keys_of_find? h
  unfold unseen
  generalize Dict.keys sources = names at hmem
  induction names with
  | nil => simp at hmem
  | cons n rest ih =>
    by_cases hn : n = name
    · subst hn
      have := fewer rest
      have h1 : (!(n :: seen).contains n) = false := by simp
      have h2 : (!seen.contains n) = true := by simp only [hs, Bool.not_false]
      rw [List.filter_cons, List.filter_cons, h1, h2]
      simp only [Bool.false_eq_true, if_false, if_true, List.length_cons]
      omega
    · have hrest : name ∈ rest := (List.mem_cons.1 hmem).resolve_left fun e => hn e.symm
      have := ih hrest
      have h1 : (!(name :: seen).contains n) = !seen.contains n := by simp [hn]
      rw [List.filter_cons, List.filter_cons, h1]
      split
      · simp only [List.length_cons]; omega
      · exact this

/-- The tokens of the templates of a chain, from some tokens to the last layout, and the names that
were asked for; `seen` are the names that the chain must not lead back to. -/
def levels (setup : Setup) (seen : List String) (tokens : List Token) :
    Except Error (List (List Token)) × List String :=
  match takeExtends setup.tags tokens with
  | .error e => (.error e, [])
  | .ok (none, tokens) => (.ok [tokens], [])
  | .ok (some layout, tokens) =>
    let name := setup.options.resolveName layout
    if _hs : seen.contains name then (.error (.parse (.circularLayout name) none none), [])
    else
      match _h : Dict.find? name setup.sources with
      | none => (.error (.notFound name), [name])
      | some source =>
        match tokenize setup.options source with
        | .error e => (.error e, [name])
        | .ok next =>
          let (more, asked) := levels setup (name :: seen) next
          (more.map (tokens :: ·), name :: asked)
termination_by (unseen setup.sources seen).length
decreasing_by exact length_unseen_lt (by simpa using _hs) _h

end Stencil
