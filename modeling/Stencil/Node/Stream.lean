import Stencil.Node.Reader

/-!
# Reading nodes from a stream of tokens

A stream is read in pieces: a token, a node, a body up to one of several tags, or all the rest.  A
piece that fails leaves the stream behind the last token that was taken.
-/

set_option autoImplicit false

namespace Stencil

/-- A stream of tokens: the token that was taken last, and those that are left. -/
structure Stream where
  tags : Dict TagKind
  current : Option Token := none
  rest : List Token

namespace Stream

/-- Takes the next token, which then is the current one; at the end there is none. -/
def next (s : Stream) : Option Token × Stream :=
  match s.rest with
  | [] => (none, { s with current := none })
  | t :: rest => (some t, { s with current := some t, rest := rest })

/-- The next token, which is not taken. -/
def peek (s : Stream) : Option Token :=
  s.rest.head?

/-- Reads all tokens into the nodes, from what was read before them. -/
def nodesFrom (tags : Dict TagKind) : Progress → List Token → Except Error (List Node) × List Token
  | p, [] => (p.finish tags, [])
  | p, t :: rest =>
    match p.ready tags t with
    | .error e => (.error e, t :: rest)
    | .ok p =>
      match p.take tags t with
      | .error e => (.error e, rest)
      | .ok p => nodesFrom tags p rest

/-- Reads tokens until no tag is open, from what was read before them. -/
def nodeFrom (tags : Dict TagKind) : Progress → List Token → Except Error (List Node) × List Token
  | p, [] => (p.finish tags, [])
  | p, t :: rest =>
    match p.ready tags t with
    | .error e => (.error e, t :: rest)
    | .ok p =>
      if p.opened.isEmpty then (.ok p.nodes, t :: rest)
      else match p.take tags t with
        | .error e => (.error e, rest)
        | .ok p => nodeFrom tags p rest

/-- The end of a body in which a tag was left open, or that was itself left open by its opener. -/
def unclosed (tags : Dict TagKind) (opener : Token) (p : Progress) : Error :=
  match p.finish tags with
  | .error e => e
  | .ok _ => .unclosedTag opener

/-- Reads tokens up to a tag of one of the given names that stands outside every open tag. -/
def bodyFrom (tags : Dict TagKind) (opener : Token) (ends : List String) :
    Progress → List Token → Except Error (List Node × Token) × List Token
  | p, [] => (.error (unclosed tags opener p), [])
  | p, t :: rest =>
    match p.ready tags t with
    | .error e => (.error e, t :: rest)
    | .ok p =>
      if p.opened.isEmpty && ends.any t.isTag then (.ok (p.nodes, t), rest)
      else match p.take tags t with
        | .error e => (.error e, rest)
        | .ok p => bodyFrom tags opener ends p rest

/-- Takes tokens up to a tag of the given name. -/
def tokensFrom (opener : Token) (close : String) :
    List Token → List Token → Except Error (List Token) × List Token
  | _, [] => (.error (.unclosedTag opener), [])
  | claimed, t :: rest =>
    if t.isTag close then (.ok claimed, rest) else tokensFrom opener close (claimed ++ [t]) rest

/-- Reads all that is left. -/
def nodes (s : Stream) : Except Error (List Node) × Stream :=
  let (r, rest) := nodesFrom s.tags {} s.rest
  (r, { s with rest := rest })

/-- Reads the node that begins with a token. -/
def node (s : Stream) (t : Token) : Except Error (List Node) × Stream :=
  match Progress.begin s.tags {} t with
  | .error e => (.error e, s)
  | .ok p =>
    let (r, rest) := nodeFrom s.tags p s.rest
    (r, { s with rest := rest })

/-- Reads a body up to a tag of one of the given names. -/
def body (s : Stream) (opener : Token) (ends : List String) :
    Except Error (List Node × Token) × Stream :=
  let (r, rest) := bodyFrom s.tags opener ends {} s.rest
  (r, { s with rest := rest })

/-- Takes the tokens up to a tag of the given name. -/
def tokens (s : Stream) (opener : Token) (close : String) : Except Error (List Token) × Stream :=
  let (r, rest) := tokensFrom opener close [] s.rest
  (r, { s with rest := rest })

end Stream

end Stencil
