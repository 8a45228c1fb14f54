import Stencil.Node
import Stencil.Tag.Arguments

/-!
# From tokens to nodes

Tokens are read one at a time.  What was read so far is kept as a stack of open tags, each with the
nodes in front of it, the bodies that are complete and what it waits for; inside the innermost open
tag stands the sequence of nodes that is being read.  A tag that closes becomes a node of the
sequence around it.  Names such as `endif` mean something only to the innermost open tag.
-/

set_option autoImplicit false

namespace Stencil

/-- What an open tag waits for. -/
inductive Pending where
  /-- A closing tag, behind the tokens claimed so far. -/
  | verbatim (close : String) (claimed : List Token)
  /-- The end of the body that is being read, behind the complete ones. -/
  | body (head : Head) (complete : List (List Node)) (again last : Option String) (close : String)
  /-- What its factory does behind the answers that it got. -/
  | free (factory : Factory) (got : List Answer)

/-- A tag that is not closed yet. -/
structure OpenTag where
  opener : Token
  kind : TagKind
  /-- The nodes of the sequence around the tag that were read before it. -/
  before : List Node
  pending : Pending

/-- What was read of some tokens. -/
structure Progress where
  /-- The nodes of the innermost sequence. -/
  nodes : List Node := []
  /-- The open tags, innermost first. -/
  opened : List OpenTag := []

namespace Progress

/-- Whether a token is a tag of the given name, if there is such a name. -/
def isNamed (t : Token) : Option String → Bool
  | none => false
  | some name => t.isTag name

/-- Adds a node to the innermost sequence. -/
def add (p : Progress) (n : Node) : Progress :=
  { p with nodes := p.nodes ++ [n] }

/-- Opens a tag. -/
def enter (p : Progress) (opener : Token) (kind : TagKind) (pending : Pending) : Progress :=
  ⟨[], ⟨opener, kind, p.nodes, pending⟩ :: p.opened⟩

/-- Closes a tag that is the innermost one, as a node of the sequence around it. -/
def leave (o : OpenTag) (outer : List OpenTag) (head : Head) (bodies : List (List Node)) : Progress :=
  ⟨o.before ++ [.tag head bodies o.opener], outer⟩

/-- Reads a token that does not end anything. -/
def begin (tags : Dict TagKind) (p : Progress) (t : Token) : Except Error Progress :=
  match t.kind with
  | .literal => return p.add (.literal t)
  | .output => return p.add (.output (← ExprFault.inToken t (Output.read t.value)) t)
  | .tag =>
    match Dict.find? t.name tags with
    | none => throw (.atToken (.unknownTag t.name) t)
    | some kind =>
      match kind.form with
      | .single => return p.add (.tag (← kind.head t []) [] t)
      | .verbatim close => return p.enter t kind (.verbatim close [])
      | .body again last close => return p.enter t kind (.body (← kind.head t []) [] again last close)
      | .free factory => return p.enter t kind (.free factory [])

/-- Hands an error to the innermost open tag that a factory reads, as the answer to its call; the tags
inside of that one are dropped.  Where there is none, all fails. -/
def recover (e : Error) : List OpenTag → Except Error Progress
  | [] => throw e
  | o :: outer =>
    match o.pending with
    | .free factory got =>
      return ⟨[], { o with pending := .free factory (got ++ [.node (.error e)]) } :: outer⟩
    | _ => recover e outer

/-- The result of a step inside some open tags, of which one may be told what went wrong. -/
def orRecover (opened : List OpenTag) (r : Except Error Progress) : Except Error Progress :=
  match r with
  | .ok p => return p
  | .error e => recover e opened

/-- The answers of a factory with the nodes that were read for it. -/
def answers (got : List Answer) (nodes : List Node) : List Answer :=
  got ++ nodes.map fun n => .node (.ok n)

/-- What happens before the next token is taken, if anything does: a factory of the innermost tag makes
a call that takes no token, and at the end of the tokens any other tag is left open. -/
def turn (tags : Dict TagKind) (next : Option Token) (p : Progress) : Option (Except Error Progress) :=
  match p.opened with
  | [] => none
  | o :: outer =>
    match o.pending with
    | .free factory got =>
      let got := answers got p.nodes
      let told (got : List Answer) : Progress := ⟨[], { o with pending := .free factory got } :: outer⟩
      match factory o.opener got with
      | .next => if next.isSome then none else some (.ok (told (got ++ [.token none])))
      | .peek => some (.ok (told (got ++ [.token next])))
      | .node t => some (orRecover (told got).opened ((told got).begin tags t))
      | .done made => some (.ok (leave o outer made.head (made.bodies got)))
      | .fail e => some (recover e outer)
    | _ => if next.isSome then none else some (recover (.unclosedTag o.opener) p.opened)

/-- How many calls that take no token may follow each other. -/
@[irreducible]
def callBound : Nat :=
  1000000

/-- Lets the innermost factories go on, for a number of calls at most, until the next token is asked
for or nothing is open at the end of the tokens. -/
def settle (tags : Dict TagKind) (next : Option Token) : Nat → Progress → Except Error Progress
  | 0, _ => throw .tooDeep
  | n + 1, p =>
    match p.turn tags next with
    | none => return p
    | some r => do settle tags next n (← r)

/-- Lets the innermost factories go on until they ask for the next token. -/
def ready (tags : Dict TagKind) (p : Progress) (t : Token) : Except Error Progress :=
  p.settle tags (some t) callBound

/-- Reads a token that is asked for. -/
def read (tags : Dict TagKind) (p : Progress) (t : Token) : Except Error Progress :=
  match p.opened with
  | [] => p.begin tags t
  | o :: outer =>
    match o.pending with
    | .verbatim close claimed =>
      if t.isTag close then return leave o outer (← o.kind.head o.opener claimed) []
      else return { p with opened := { o with pending := .verbatim close (claimed ++ [t]) } :: outer }
    | .body head complete again last close =>
      if t.isTag close then return leave o outer head (complete ++ [p.nodes])
      else if isNamed t again then
        return ⟨[], { o with
          pending := .body (← head.again t) (complete ++ [p.nodes]) again last close } :: outer⟩
      else if isNamed t last then
        return ⟨[], { o with pending := .body head (complete ++ [p.nodes]) none none close } :: outer⟩
      else p.begin tags t
    | .free factory got =>
      return ⟨[], { o with pending := .free factory (answers got p.nodes ++ [.token t]) } :: outer⟩

/-- Takes a token that is asked for. -/
def take (tags : Dict TagKind) (p : Progress) (t : Token) : Except Error Progress :=
  orRecover p.opened (p.read tags t)

/-- Reads the next token. -/
def step (tags : Dict TagKind) (p : Progress) (t : Token) : Except Error Progress := do
  (← p.ready tags t).take tags t

/-- The nodes at the end of the tokens.  A tag that its factory makes without a further token is
closed; any other open tag is an error about it. -/
def finish (tags : Dict TagKind) (p : Progress) : Except Error (List Node) := do
  return (← p.settle tags none callBound).nodes

end Progress

/-- The nodes of some tokens. -/
def Node.readAll (tags : Dict TagKind) (tokens : List Token) : Except Error (List Node) := do
  (← tokens.foldlM (Progress.step tags) {}).finish tags

end Stencil
