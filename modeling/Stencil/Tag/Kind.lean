import Stencil.Node

/-!
# Kinds of tags

A kind of tag says how its tags claim the tokens behind them.  The tags that a user adds are read by
factories.  A factory is a program that calls the stream of the tokens: it takes or sees the next
token, or has a node read, and goes on with what the call gave, until it has made its tag or fails.
What other tags there are it does not see, but a node that could not be read it does.
-/

set_option autoImplicit false

namespace Stencil

/-- What a call of a stream gave to a factory. -/
inductive Answer where
  /-- The next token, if there was one. -/
  | token (next : Option Token)
  /-- The node that was read, or why there is none. -/
  | node (result : Except Error Node)

/-- The nodes that a factory got at some places among its answers. -/
def Answer.nodesAt (got : List Answer) (places : List Nat) : List Node :=
  places.filterMap fun i =>
    match got[i]? with
    | some (node (.ok n)) => some n
    | _ => none

/-- What a factory makes of a tag.  A body holds the nodes that were got at some places. -/
inductive Made where
  /-- A tag that may name a layout. -/
  | tag (script : Script) (layout : Option String) (bodies : List (List Nat))
  /-- A part of a layout. -/
  | block (script : Script) (name : String) (body : List Nat)

namespace Made

/-- The head of the tag. -/
def head : Made → Head
  | tag script layout _ => .script script layout
  | block script name _ => .region script name

/-- The bodies of the tag. -/
def bodies (got : List Answer) : Made → List (List Node)
  | tag _ _ bodies => bodies.map (Answer.nodesAt got)
  | block _ _ body => [Answer.nodesAt got body]

end Made

/-- What a factory does next. -/
inductive Move where
  /-- Takes the next token. -/
  | next
  /-- Sees the next token, which is not taken. -/
  | peek
  /-- Has a token read as a node, with the tokens behind those that were taken. -/
  | node (t : Token)
  | done (made : Made)
  | fail (error : Error)

/-- How a tag that a user added claims tokens: what to do next for the token of the tag and the
answers so far.  All other calls of a stream are loops of these. -/
abbrev Factory := Token → List Answer → Move

/-- The kinds of tags. -/
inductive TagKind where
  /-- Names the layout of a template. -/
  | layout
  /-- A part of a layout that templates replace. -/
  | block
  /-- Binds a variable to the value of an output. -/
  | assign
  /-- Binds a variable to the text of a body. -/
  | capture
  /-- Chooses the first body whose condition holds. -/
  | conditional
  /-- Chooses its body when a condition fails. -/
  | negated
  /-- Renders its body for every item of a collection. -/
  | loop
  /-- Leaves a round of a loop. -/
  | signal (control : LoopControl)
  /-- Renders the source text up to its end. -/
  | raw
  /-- Renders nothing. -/
  | comment
  /-- Renders another template in place. -/
  | inclusion
  /-- Is read by a factory. -/
  | custom (factory : Factory)

/-- How a tag claims the tokens behind it. -/
inductive Form where
  /-- It stands alone. -/
  | single
  /-- It claims all tokens up to a closing tag, unread. -/
  | verbatim (close : String)
  /-- It claims bodies up to a closing tag.  A tag named `again` begins a further body, and a tag
  named `last` begins the last one. -/
  | body (again last : Option String) (close : String)
  /-- It claims what its factory takes and what the nodes that its factory has read claim. -/
  | free (factory : Factory)

/-- How the tags of a kind claim tokens. -/
def TagKind.form : TagKind → Form
  | block => .body none none "endblock"
  | capture => .body none none "endcapture"
  | conditional => .body (some "elsif") (some "else") "endif"
  | negated => .body none (some "else") "endunless"
  | loop => .body none (some "else") "endfor"
  | raw => .verbatim "endraw"
  | comment => .verbatim "endcomment"
  | custom factory => .free factory
  | _ => .single

/-- The tags of every engine under their names. -/
def TagKind.builtin : Dict TagKind :=
  Dict.ofList
    [("extends", layout), ("block", block), ("assign", assign), ("capture", capture), ("if", conditional),
      ("unless", negated), ("for", loop), ("break", signal .break), ("continue", signal .continue),
      ("raw", raw), ("comment", comment), ("include", inclusion)]

end Stencil
