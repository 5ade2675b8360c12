import QueryTemplate.Text.Hex
import QueryTemplate.Text.Unprintable

/-!
# Quoted text

A text between double quotes with everything unclear written as an escape: the
quote and the backslash, tab, return and line feed by their letters, and any
character that has no shape of its own by its code point in braces.
-/

namespace QueryTemplate.Text

def quotedChar (c : Char) : List Char :=
  if c == '"' then ['\\', '"']
  else if c == '\\' then ['\\', '\\']
  else if c == '\t' then ['\\', 't']
  else if c == '\r' then ['\\', 'r']
  else if c == '\n' then ['\\', 'n']
  else if c.toNat == 0 then ['\\', '0']
  else if unprintable.contains c then ['\\', 'u', '\x7b'] ++ hexDigits c.toNat ++ ['\x7d']
  else [c]

def quoted (s : String) : String :=
  String.ofList (['"'] ++ s.toList.flatMap quotedChar ++ ['"'])

@[simp] theorem toList_quoted (s : String) :
    (quoted s).toList = ['"'] ++ s.toList.flatMap quotedChar ++ ['"'] := by
  simp [quoted]

end QueryTemplate.Text
