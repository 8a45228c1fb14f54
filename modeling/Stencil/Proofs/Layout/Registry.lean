import Stencil.Proofs.Layout.Ascent
import Stencil.Proofs.Node.Passing

/-!
# Reading with more tags

Tags are only added to what templates are read with.  A template that was read with some tags is
read with more tags in the same way, if their factories pass failures on: the nodes
(`Node.readAll_of_more`), the layout of a level (`yields_takeExtends`), a chain of layouts
(`levels_of_more`) and the template (`Template.parse_of_more`).  What could not be read may be read
with more tags, of course.  That is why a factory that goes on behind a failure can make a difference.
-/

set_option autoImplicit false

namespace Stencil

/-- What succeeds as the first result says succeeds as the second one says. -/
def Yields {α : Type} (r r' : Except Error α) : Prop :=
  ∀ x, r = .ok x → r' = .ok x

section Results

variable {α β : Type}

/-- A result is as it is. -/
theorem Yields.refl (r : Except Error α) : Yields r r :=
  fun _ h => h

/-- In a sequence, each step may be replaced by one that succeeds in the same way. -/
theorem Yields.bind {r r' : Except Error α} {f f' : α → Except Error β} (h : Yields r r')
    (hf : ∀ x, Yields (f x) (f' x)) : Yields (r >>= f) (r' >>= f') := by
  cases r with
  | error e =>
    intro y hy
    cases hy
  | ok x =>
    rw [h x rfl]
    exact hf x

/-- For each entry of a list, a step may be replaced by one that succeeds in the same way. -/
theorem yields_mapM {f f' : α → Except Error β} (h : ∀ a, Yields (f a) (f' a)) (l : List α) :
    Yields (l.mapM f) (l.mapM f') := by
  induction l with
  | nil => exact .refl _
  | cons a rest ih =>
    rw [List.mapM_cons, List.mapM_cons]
    exact (h a).bind fun b => ih.bind fun bs => .refl _

end Results

section Nodes

variable {tags tags' : Dict TagKind} (htags : PassOn tags) (hmore : Dict.Sub tags tags')

include htags hmore

/-- A layout that is named with some tags is named with more. -/
theorem yields_takeExtends (tokens : List Token) :
    Yields (takeExtends tags tokens) (takeExtends tags' tokens) := by
  unfold takeExtends
  split
  · exact .refl _
  · cases tokens with
    | nil => exact .refl _
    | cons t rest =>
      dsimp only
      split
      · have hnode : Yields (Stream.node { tags := tags, rest := [] } t).1
            (Stream.node { tags := tags', rest := [] } t).1 :=
          fun _ => Stream.node_of_more htags hmore
        exact hnode.bind fun nodes => .refl _
      · exact .refl _

/-- Levels that are merged with some tags are merged alike with more. -/
theorem Template.yields_ofLevels (chain : List (List Token)) :
    Yields (ofLevels tags chain) (ofLevels tags' chain) := by
  have hlevel (tokens : List Token) : Yields (readLevel tags tokens) (readLevel tags' tokens) := by
    have hnodes : Yields (Node.readAll tags tokens) (Node.readAll tags' tokens) :=
      fun _ => Node.readAll_of_more htags hmore
    exact hnodes.bind fun nodes => .refl _
  exact (yields_mapM hlevel chain).bind fun levels => .refl _

end Nodes

/-- The setup with other tags. -/
def Setup.withTags (setup : Setup) (tags : Dict TagKind) : Setup :=
  { setup with tags := tags }

section Templates

variable {setup : Setup} {tags : Dict TagKind} (htags : PassOn setup.tags)
  (hmore : Dict.Sub setup.tags tags)

include htags hmore

/-- A chain that is found with some tags is found with more, and asks for the same names. -/
theorem levels_of_more {seen : List String} {tokens : List Token} {chain : List (List Token)}
    (h : (levels setup seen tokens).1 = .ok chain) :
    levels (setup.withTags tags) seen tokens = levels setup seen tokens := by
  obtain ⟨below, last, hascent, hnew, hdisjoint, hroot, rfl⟩ := levels_eq_ok_iff.1 h
  have hascent' : Ascent (setup.withTags tags) tokens (levels setup seen tokens).2 below last := by
    apply Ascent.imp _ _ hascent
    · intro tokens own name hextends
      obtain ⟨layout, htake, hname⟩ := extends_iff.1 hextends
      exact extends_iff.2 ⟨layout, yields_takeExtends htags hmore _ _ htake, hname⟩
    · exact fun _ _ hprovides => hprovides
  rw [hascent.levels_eq hnew hdisjoint (.root hroot),
    hascent'.levels_eq hnew hdisjoint (.root hroot), List.append_nil]

/-- A template that is read with some tags is the same with more tags, and asks for the same
layouts. -/
theorem Template.parse_of_more {name : Option String} {source : String} {t : Template}
    (h : (parse setup name source).1 = .ok t) :
    parse (setup.withTags tags) name source = parse setup name source := by
  cases htokens : tokenize setup.options source with
  | error e =>
    have htokens' : tokenize (setup.withTags tags).options source = .error e := htokens
    simp only [parse, htokens, htokens']
  | ok tokens =>
    have htokens' : tokenize (setup.withTags tags).options source = .ok tokens := htokens
    simp only [parse, htokens, htokens'] at h ⊢
    change (levels setup (setup.ownName name) tokens).1.bind (ofLevels setup.tags) = .ok t at h
    show ((levels (setup.withTags tags) (setup.ownName name) tokens).1.bind (ofLevels tags),
        (levels (setup.withTags tags) (setup.ownName name) tokens).2) =
      ((levels setup (setup.ownName name) tokens).1.bind (ofLevels setup.tags),
        (levels setup (setup.ownName name) tokens).2)
    cases hchain : (levels setup (setup.ownName name) tokens).1 with
    | error e =>
      rw [hchain] at h
      cases h
    | ok chain =>
      rw [hchain] at h
      change ofLevels setup.tags chain = .ok t at h
      rw [levels_of_more htags hmore hchain, hchain]
      show (ofLevels tags chain, _) = (ofLevels setup.tags chain, _)
      rw [h, yields_ofLevels htags hmore chain t h]

end Templates

end Stencil
