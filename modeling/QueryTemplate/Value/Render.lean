import QueryTemplate.Value.Basic
import QueryTemplate.Decimal.Layout
import QueryTemplate.Text.Hex

/-!
# The text of a value

`Value.render` writes a value compactly: no blanks, members in their order, and in
strings only the quote, the backslash and the controls escaped.  `Value.toText` is
the text of a value inside a longer text: a string stands for itself and `null`
for nothing.
-/

namespace QueryTemplate

def Number.render : Number → List Char
  | .whole n => Decimal.intText n.val
  | .float x => Decimal.floatText x

namespace Value

def renderChar (c : Char) : List Char :=
  if c == '"' then ['\\', '"']
  else if c == '\\' then ['\\', '\\']
  else if c == '\n' then ['\\', 'n']
  else if c == '\r' then ['\\', 'r']
  else if c == '\t' then ['\\', 't']
  else if c == '\x08' then ['\\', 'b']
  else if c == '\x0c' then ['\\', 'f']
  else if c.toNat < 0x20 then
    ['\\', 'u', '0', '0', Text.hexDigit (c.toNat / 16), Text.hexDigit c.toNat]
  else [c]

def renderString (s : String) : List Char :=
  ['"'] ++ s.toList.flatMap renderChar ++ ['"']

mutual

def render : Value → List Char
  | .null => ['n', 'u', 'l', 'l']
  | .bool true => ['t', 'r', 'u', 'e']
  | .bool false => ['f', 'a', 'l', 's', 'e']
  | .number n => n.render
  | .string s => renderString s
  | .array items => ['['] ++ renderItems items ++ [']']
  | .object members => ['\x7b'] ++ renderMembers members ++ ['\x7d']

/-- The items of an array with commas between them. -/
def renderItems : List Value → List Char
  | [] => []
  | [item] => render item
  | item :: rest => render item ++ [','] ++ renderItems rest

/-- The members of an object with commas between them. -/
def renderMembers : List (String × Value) → List Char
  | [] => []
  | [(name, value)] => renderString name ++ [':'] ++ render value
  | (name, value) :: rest =>
    renderString name ++ [':'] ++ render value ++ [','] ++ renderMembers rest

end

/-- The compact text of a value as a string. -/
def text (v : Value) : String :=
  String.ofList v.render

/-- The text of a value inside a longer text. -/
def toText : Value → String
  | .null => ""
  | .string s => s
  | v => v.text

@[simp] theorem toText_null : toText .null = "" := rfl

@[simp] theorem toText_string (s : String) : toText (.string s) = s := rfl

end Value

end QueryTemplate
