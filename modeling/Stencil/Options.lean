import Stencil.Value

/-!
# Options

The settings of an engine, how they are read from a configuration value, and the rule that gives a
template name its extension.
-/

set_option autoImplicit false

namespace Stencil

/-- The settings of an engine. -/
structure Options where
  /-- Keep the templates that were fetched by name. -/
  cache : Bool := false
  /-- Appended to template names that have no extension. -/
  extname : String := ".liquid"
  /-- Trim white space before every tag. -/
  trimLeft : Bool := false
  /-- Trim white space after every tag. -/
  trimRight : Bool := false
  /-- Trimming removes all white space; otherwise blanks up to one line end. -/
  greedy : Bool := true
  /-- Fail on unknown filters and on wrong numbers of arguments. -/
  strictFilters : Bool := false
  /-- Fail on undefined variables. -/
  strictVariables : Bool := false

namespace Options

/-- The settings under their configuration keys, in the order of declaration. -/
def fields (o : Options) : List (String × Value) :=
  [("cache", .bool o.cache), ("extname", .string o.extname), ("trim_left", .bool o.trimLeft),
    ("trim_right", .bool o.trimRight), ("greedy", .bool o.greedy),
    ("strict_filters", .bool o.strictFilters), ("strict_variables", .bool o.strictVariables)]

/-- Sets one option from a configuration value; keys that name no option are ignored and a value of
the wrong type is refused. -/
def set? (o : Options) (key : String) (v : Value) : Option Options :=
  match key, v with
  | "cache", .bool b => some { o with cache := b }
  | "extname", .string s => some { o with extname := s }
  | "trim_left", .bool b => some { o with trimLeft := b }
  | "trim_right", .bool b => some { o with trimRight := b }
  | "greedy", .bool b => some { o with greedy := b }
  | "strict_filters", .bool b => some { o with strictFilters := b }
  | "strict_variables", .bool b => some { o with strictVariables := b }
  | key, _ => if (fields o).any (·.1 == key) then none else some o

/-- Options from a configuration value: an object by keys, or a list in the order of declaration.
What is missing keeps its default. -/
def ofValue? : Value → Option Options
  | .object entries => entries.foldlM (fun o e => o.set? e.1 e.2) {}
  | .array items =>
    let keys := (fields {}).map Prod.fst
    if items.length ≤ keys.length then (keys.zip items).foldlM (fun o e => o.set? e.1 e.2) {} else none
  | _ => none

/-- The parts of a path between its slashes that name something: the empty parts count for nothing,
nor does a single dot except at the beginning. -/
def pathParts (name : List Char) : List (List Char) :=
  match name.splitOn '/' with
  | [] => []
  | first :: rest => (first :: rest.filter (· != ['.'])).filter (!·.isEmpty)

/-- Whether the last part of a path has a dot behind its first character; the parent directory has
no extension. -/
def hasExtension (name : List Char) : Bool :=
  match (pathParts name).getLast? with
  | none => false
  | some part => part != ['.', '.'] && part.tail.contains '.'

/-- Appends the default extension to a template name that has none. -/
def resolveName (o : Options) (name : String) : String :=
  if hasExtension name.toList then name else name ++ o.extname

end Options

end Stencil
