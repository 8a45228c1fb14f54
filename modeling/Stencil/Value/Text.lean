import Stencil.Json.Writer

/-!
# Values as text

The text that an output prints for a value.
-/

set_option autoImplicit false

namespace Stencil.Value

mutual

/-- The printed text of a value: nothing for null, the items of a list between commas, and JSON for
an object. -/
def text : Value → String
  | null => ""
  | bool true => "true"
  | bool false => "false"
  | number n => n.text
  | string s => s
  | array items => ",".intercalate (texts items)
  | object fields => Json.text (object fields)

/-- The printed texts of several values. -/
def texts : List Value → List String
  | [] => []
  | v :: rest => text v :: texts rest

end

end Stencil.Value
