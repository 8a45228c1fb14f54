import Stencil.Template
import Stencil.Proofs.Expr.Faults
import Stencil.Proofs.Node.Settling

/-!
# Places of errors

Whatever goes wrong between a source and its tokens (`places_tokenize`), and between the tokens and
the nodes of a template (`Node.places_readAll`), is told with its place: every fault of the arguments
of a tag is about that tag, and a tag that is left open is told with its own place.  So is a block
that is defined twice (`Template.places_readLevel`).  Only a factory may fail with any error at all.
-/

set_option autoImplicit false

namespace Stencil

/-- An error of reading that tells its place. -/
def Error.IsPlaced : Error → Prop
  | tokenization _ _ => True
  | parse _ _ (some _) => True
  | _ => False

/-- If there is no result, then the error tells its place. -/
def Places {α : Type} (r : Except Error α) : Prop :=
  ∀ e, r = .error e → e.IsPlaced

section Results

variable {α β : Type}

/-- A result is no error. -/
theorem places_ok (x : α) : Places (Except.ok x : Except Error α) :=
  Fails.ok x

/-- A result that is returned is no error. -/
theorem places_pure (x : α) : Places (pure x : Except Error α) :=
  places_ok x

/-- An error with a place is the only one. -/
theorem places_error {e : Error} (h : e.IsPlaced) : Places (Except.error e : Except Error α) :=
  Fails.error h

/-- A sequence has errors with places if its steps have. -/
theorem places_bind {r : Except Error α} {f : α → Except Error β} (h : Places r)
    (hf : ∀ x, Places (f x)) : Places (r >>= f) :=
  Fails.bind h hf

/-- A fault in a token has the place of the token. -/
theorem places_inToken (t : Token) (r : Except ExprFault α) : Places (ExprFault.inToken t r) := by
  cases r with
  | error fault => exact places_error trivial
  | ok x => exact places_ok x

/-- A head that is made from what an expression of a tag reads as. -/
theorem places_map_inToken (t : Token) (r : Except ExprFault α) (f : α → β) :
    Places (do let x ← ExprFault.inToken t r; return f x) :=
  places_bind (places_inToken t r) fun _ => places_pure _

/-- A list is mapped with errors that have places if its entries are. -/
theorem places_mapM {f : α → Except Error β} (h : ∀ a, Places (f a)) (l : List α) :
    Places (l.mapM f) :=
  Fails.mapM h l

end Results

section Tokens

variable {options : Options}

/-- A delimited text that is no token is an error at its place. -/
theorem Token.places_ofInner (d : Delimiter) (p : Position) (inner : List Char) :
    Places (Token.ofInner options d p inner) := by
  unfold Token.ofInner
  dsimp only
  split <;> split
  · exact places_error trivial
  · exact places_ok _
  · exact places_error trivial
  · exact places_ok _

/-- A source that is not cut is an error with a place. -/
theorem Token.places_scanFrom (before : List Char) (p : Position) (cs : List Char) :
    Places (Token.scanFrom options before p cs) := by
  fun_induction Token.scanFrom options before p cs with
  | case1 => exact places_ok _
  | case2 => exact places_error trivial
  | case3 =>
    next hinner => exact places_error (Token.places_ofInner _ _ _ _ hinner)
  | case4 =>
    next hrest ih => exact places_error (ih _ hrest)
  | case5 => exact places_ok _

/-- A source that is not cut into tokens is an error with a place. -/
theorem places_tokenize (options : Options) (source : String) :
    Places (tokenize options source) := by
  have hscan : Places (Token.scanFrom options [] .start source.toList) :=
    Token.places_scanFrom [] .start source.toList
  unfold tokenize Token.scan
  cases h : Token.scanFrom options [] .start source.toList with
  | error e => exact places_error (hscan e h)
  | ok tokens => exact places_ok _

end Tokens

section Heads

/-- A tag without the name of a template is an error at its place. -/
theorem places_templateName (t : Token) : Places (templateName t) := by
  unfold templateName
  dsimp only
  have hbare (args : String) : Places (if !args.isEmpty && args.toList.all isTemplateNameChar
      then Except.ok args else .error (.atToken (.badTemplateName args) t)) := by
    split
    · exact places_ok _
    · exact places_error trivial
  split
  · split
    · exact hbare _
    · exact places_ok _
  · exact hbare _

/-- A tag without the name of a variable is an error at its place. -/
theorem places_variableName (t : Token) : Places (variableName t) := by
  unfold variableName
  dsimp only
  split
  · exact places_ok _
  · exact places_error trivial

/-- A tag that is no assignment is an error at its place. -/
theorem places_assignment (t : Token) : Places (assignment t) := by
  unfold assignment
  split
  · exact places_error trivial
  · exact places_map_inToken t _ _

/-- A tag that is no loop is an error at its place. -/
theorem places_loopHead (t : Token) : Places (loopHead t) := by
  apply places_bind (places_inToken t _)
  intro lexemes
  apply places_bind (places_inToken t _)
  rintro ⟨var, rest⟩
  dsimp only
  split
  · apply places_bind (places_inToken t _)
    rintro ⟨collection, rest⟩
    exact places_map_inToken t _ _
  · exact places_error trivial

/-- Arguments that a kind of tag cannot take are an error at the tag's place. -/
theorem TagKind.places_head (kind : TagKind) (t : Token) (claimed : List Token) :
    Places (kind.head t claimed) := by
  cases kind with
  | layout => exact places_bind (places_templateName t) fun _ => places_pure _
  | capture => exact places_bind (places_variableName t) fun _ => places_pure _
  | assign => exact places_assignment t
  | loop => exact places_loopHead t
  | inclusion => exact places_inToken t _
  | conditional | negated => exact places_map_inToken t _ _
  | block | signal | raw | comment | custom => exact places_pure _

/-- Arguments that a further body cannot have are an error at the place of its tag. -/
theorem Head.places_again (head : Head) (t : Token) : Places (head.again t) := by
  unfold Head.again
  split
  · exact places_map_inToken t _ _
  · exact places_pure _

end Heads

namespace Progress

variable {tags : Dict TagKind}

/-- A token that cannot begin a node is an error at its place. -/
theorem places_begin (p : Progress) (t : Token) : Places (p.begin tags t) := by
  unfold Progress.begin
  split
  · exact places_pure _
  · exact places_map_inToken t _ _
  · split
    · exact places_error trivial
    · next kind _ =>
      have hhead := kind.places_head t []
      split
      · exact places_bind hhead fun _ => places_pure _
      · exact places_pure _
      · exact places_bind hhead fun _ => places_pure _
      · exact places_pure _

/-- A token that cannot be read is an error at its place. -/
theorem places_read (p : Progress) (t : Token) : Places (p.read tags t) := by
  unfold Progress.read
  split
  · exact places_begin p t
  · split
    · split
      · exact places_bind (TagKind.places_head _ _ _) fun _ => places_pure _
      · exact places_pure _
    · split
      · exact places_pure _
      · split
        · exact places_bind (Head.places_again _ _) fun _ => places_pure _
        · split
          · exact places_pure _
          · exact places_begin p t
    · exact places_pure _

/-- What is left open at the end of the tokens is told with its place. -/
theorem places_finish {p : Progress} (hp : p.Unaided) : Places (p.finish tags) := by
  rw [finish_of_unaided hp]
  split
  · exact places_ok _
  · exact places_error trivial

/-- Without factories, whatever goes wrong from some progress on is told with its place. -/
theorem places_steps (htags : WithoutFactories tags) (tokens : List Token) {p : Progress}
    (hp : p.Unaided) : Places (tokens.foldlM (step tags) p >>= finish tags) := by
  induction tokens generalizing p with
  | nil => exact places_finish hp
  | cons t rest ih =>
    rw [List.foldlM_cons, step_of_unaided hp, bind_assoc]
    cases hread : p.read tags t with
    | error e => exact places_error (places_read p t e hread)
    | ok q => exact ih (hp.read htags hread)

end Progress

open Progress

/-- Without factories, tokens that cannot be read are an error with a place. -/
theorem Node.places_readAll {tags : Dict TagKind} (htags : WithoutFactories tags)
    (tokens : List Token) : Places (Node.readAll tags tokens) :=
  places_steps htags tokens (List.forall_mem_nil _)

namespace Template

/-- Without factories, a level that cannot be read is an error with a place. -/
theorem places_readLevel {tags : Dict TagKind} (htags : WithoutFactories tags)
    (tokens : List Token) : Places (readLevel tags tokens) := by
  apply places_bind (Node.places_readAll htags tokens)
  intro nodes
  apply places_bind
  · unfold checkBlocks
    split
    · exact places_ok ()
    · exact places_error trivial
  · intro _
    exact places_pure nodes

end Template

end Stencil
