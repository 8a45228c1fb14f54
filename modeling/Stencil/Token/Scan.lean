import Stencil.Error
import Stencil.Options
import Stencil.Text.Word

/-!
# From source text to tokens

The source is read from left to right: text up to the next opening delimiter is a literal, and a
delimited text reaches to the first closing delimiter behind its opener.  No text is lost, and every
token knows its place.
-/

set_option autoImplicit false

namespace Stencil.Token

/-- The text before the first opening delimiter, and the delimiter with the text behind it. -/
def splitOpener : List Char → List Char × Option (Delimiter × List Char)
  | [] => ([], none)
  | '\x7b' :: '\x7b' :: rest => ([], some (.output, rest))
  | '\x7b' :: '%' :: rest => ([], some (.tag, rest))
  | c :: rest => (c :: (splitOpener rest).1, (splitOpener rest).2)

/-- The text before the first occurrence of a mark, and the text behind it. -/
def splitMark (mark : List Char) : List Char → Option (List Char × List Char)
  | [] => none
  | c :: rest =>
    if mark.isPrefixOf (c :: rest) then some ([], (c :: rest).drop mark.length)
    else (splitMark mark rest).map fun (inner, after) => (c :: inner, after)

/-- The text behind an opening delimiter is shorter than the whole. -/
theorem length_of_splitOpener {cs text rest : List Char} {d : Delimiter}
    (h : splitOpener cs = (text, some (d, rest))) : rest.length < cs.length := by
  fun_induction splitOpener cs generalizing text with
  | case1 => cases h
  | case2 behind =>
    cases h
    exact Nat.lt_of_succ_lt (Nat.lt_succ_self _)
  | case3 behind =>
    cases h
    exact Nat.lt_of_succ_lt (Nat.lt_succ_self _)
  | case4 c more _ _ ih =>
    have hmore : splitOpener more = ((splitOpener more).1, some (d, rest)) :=
      Prod.ext rfl (Prod.mk.inj h).2
    exact Nat.lt_succ_of_lt (ih hmore)

/-- The text behind a mark is no longer than the whole. -/
theorem length_of_splitMark {mark cs inner rest : List Char}
    (h : splitMark mark cs = some (inner, rest)) : rest.length ≤ cs.length := by
  induction cs generalizing inner with
  | nil => cases h
  | cons c more ih =>
    unfold splitMark at h
    split at h
    · cases h
      rw [List.length_drop]
      exact Nat.sub_le ..
    · obtain ⟨⟨inner', rest'⟩, hmore, hsplit⟩ := Option.map_eq_some_iff.1 h
      cases hsplit
      exact Nat.le_succ_of_le (ih hmore)

/-- The content of a delimited text without its trim marks and the white space around it. -/
structure Content where
  trimLeft : Bool
  text : List Char
  trimRight : Bool

/-- Takes one leading dash, then one trailing dash, then surrounding white space off the text
between two delimiters. -/
def Content.ofInner (inner : List Char) : Content :=
  let (left, inner) := match inner with
    | '-' :: rest => (true, rest)
    | inner => (false, inner)
  let right := inner.getLast? == some '-'
  let inner := if right then inner.dropLast else inner
  ⟨left, Text.trim inner, right⟩

/-- The token of a delimited text that begins at a place. -/
def ofInner (options : Options) (d : Delimiter) (position : Position) (inner : List Char) :
    Except Error Token :=
  let raw := String.ofList (d.opener ++ inner ++ d.closer)
  let content := Content.ofInner inner
  match d with
  | .output =>
    if content.text.isEmpty then .error (.tokenization (.emptyOutput raw) position)
    else .ok {
      kind := .output
      value := String.ofList content.text
      raw := raw
      position := position
      trimLeft := content.trimLeft
      trimRight := content.trimRight }
  | .tag =>
    let name := content.text.takeWhile Text.isWord
    let rest := content.text.dropWhile Text.isWord
    if name.isEmpty then .error (.tokenization (.badTag raw) position)
    else .ok {
      kind := .tag
      name := String.ofList name
      args := String.ofList (Text.trimStart rest)
      value := String.ofList content.text
      raw := raw
      position := position
      trimLeft := content.trimLeft || options.trimLeft
      trimRight := content.trimRight || options.trimRight }

/-- The literal token of a text, unless the text is empty. -/
def literals (position : Position) (text : List Char) : List Token :=
  if text.isEmpty then [] else [literal (String.ofList text) position]

/-- The tokens of the text `cs`, which begins at a place behind the text `before`, last character
first. -/
def scanFrom (options : Options) (before : List Char) (position : Position) (cs : List Char) :
    Except Error (List Token) :=
  match _h : splitOpener cs with
  | (text, none) => .ok (literals position text)
  | (text, some (d, rest)) =>
    let place := position.advance text
    let before := d.opener.reverse ++ text.reverse ++ before
    match _h' : splitMark d.closer rest with
    | none => .error (.tokenization (.unclosed d (String.ofList before.reverse)) place)
    | some (inner, after) =>
      match ofInner options d place inner with
      | .error e => .error e
      | .ok token =>
        let before := d.closer.reverse ++ inner.reverse ++ before
        let behind := place.advance (d.opener ++ inner ++ d.closer)
        match scanFrom options before behind after with
        | .error e => .error e
        | .ok tokens => .ok (literals position text ++ token :: tokens)
termination_by cs.length
decreasing_by
  have := length_of_splitOpener _h
  have := length_of_splitMark _h'
  omega

/-- The tokens of a source, before literals are trimmed. -/
def scan (options : Options) (source : List Char) : Except Error (List Token) :=
  scanFrom options [] .start source

end Stencil.Token
