import QueryTemplate.Error
import QueryTemplate.Mapping.Basic

/-!
# The text of a placeholder

A placeholder is a property path, or an expression in parentheses, with an optional
type tag after a colon and attributes `name=value` after commas:

    user.name
    price:NUMERIC, numericScale=2
    (a + b), jdbcType=BIGINT

`Placeholder.read?` takes the text apart and `Mapping.parse` makes the mapping.
Parentheses are matched by counting alone.
-/

namespace QueryTemplate

namespace Placeholder

/-- What a placeholder names. -/
inductive Head
  | property (path : List Char)
  | expression (text : List Char)
deriving DecidableEq, Repr

/-- The parts of a placeholder, and the text behind them. -/
structure Parts where
  head : Head
  tag : Option (List Char)
  attributes : List (List Char × List Char)
  rest : List Char
deriving DecidableEq, Repr

/-- The text up to the parenthesis that closes the one before the text, with `depth` more
of them still open. -/
def balanced? (depth : Nat) : List Char → Option (List Char × List Char)
  | [] => none
  | c :: rest =>
    if c == '(' then
      (balanced? (depth + 1) rest).map fun (inner, after) => (c :: inner, after)
    else if c == ')' then
      match depth with
      | 0 => some ([], rest)
      | depth + 1 => (balanced? depth rest).map fun (inner, after) => (c :: inner, after)
    else (balanced? depth rest).map fun (inner, after) => (c :: inner, after)

/-- Whether a name in an attribute ends before the character. -/
def endsName (c : Char) : Bool :=
  c == '=' || c == ','

/-- The attributes at the front of a text, up to one that has no `=`. -/
def attributes (s : List Char) : List (List Char × List Char) × List Char :=
  match hs : Text.skipGaps s with
  | ',' :: named =>
    match hn : named.dropWhile (!endsName ·) with
    | '=' :: valued =>
      have hlt : (valued.dropWhile (· != ',')).length < s.length := by
        have h1 := Text.length_skipGaps_le s
        have h2 := Text.length_dropWhile_le (!endsName ·) named
        have h3 := Text.length_dropWhile_le (· != ',') valued
        rw [hs] at h1
        rw [hn] at h2
        simp only [List.length_cons] at h1 h2
        omega
      let more := attributes (valued.dropWhile (· != ','))
      ((named.takeWhile (!endsName ·), valued.takeWhile (· != ',')) :: more.1, more.2)
    | _ => ([], s)
  | _ => ([], s)
termination_by s.length

/-- The type tag at the front of a text. -/
def tag (s : List Char) : Option (List Char) × List Char :=
  match Text.skipGaps s with
  | ':' :: tagged => (some (Text.trim (tagged.takeWhile (· != ','))), tagged.dropWhile (· != ','))
  | _ => (none, s)

/-- The head at the front of a text, or the text behind a parenthesis that is never closed. -/
def head (s : List Char) : Except (List Char) (Head × List Char) :=
  match s with
  | '(' :: inside =>
    match balanced? 0 inside with
    | some (inner, after) => .ok (.expression (Text.trim inner), after)
    | none => .error inside
  | _ =>
    .ok (.property (Text.trim (s.takeWhile fun c => c != ',' && c != ':')),
      s.dropWhile fun c => c != ',' && c != ':')

/-- The parts of a placeholder, or the text behind a parenthesis that is never closed. -/
def parts (s : List Char) : Except (List Char) Parts := do
  let (head, afterHead) ← head (Text.skipGaps s)
  let (tag, afterTag) := tag afterHead
  let (attributes, rest) := attributes afterTag
  return { head, tag, attributes, rest }

def Head.mapping : Head → Mapping
  | .property path => { property := String.ofList path }
  | .expression text =>
    { property := String.ofList text, expression := some (String.ofList text) }

end Placeholder

namespace Mapping

/-- What an attribute or a tag reads as, or the error for it. -/
def valid {α : Type} (content name : String) (value : List Char) (reading : Option α) :
    Except Error α :=
  match reading with
  | some a => .ok a
  | none => .error (.badAttribute name (String.ofList (Text.trim value)) content)

def setAttribute (content : String) (m : Mapping) (name value : List Char) :
    Except Error Mapping :=
  let key := String.ofList (Text.trim name)
  let text := String.ofList (Text.trim value)
  if key == "javaType" then .ok { m with valueType := some text }
  else if key == "jdbcType" then do
    let t ← valid content key value (JdbcType.ofName? text)
    return { m with jdbcType := some t }
  else if key == "mode" then do
    let mode ← valid content key value (ParameterMode.ofName? text)
    return { m with mode }
  else if key == "numericScale" then do
    let scale ← valid content key value (Decimal.unsigned? (Nat.pow 2 32) text.toList)
    return { m with numericScale := some scale }
  else if key == "resultMap" then .ok { m with resultMap := some text }
  else if key == "jdbcTypeName" then .ok { m with jdbcTypeName := some text }
  else if key == "expression" then .ok { m with expression := some text }
  else .error (.unknownAttribute key content)

/-- The mapping with attributes set in order; of two for one name the later one stays. -/
def setAttributes (content : String) :
    Mapping → List (List Char × List Char) → Except Error Mapping
  | m, [] => .ok m
  | m, (name, value) :: rest => do
    setAttributes content (← setAttribute content m name value) rest

def setTag (content : String) (m : Mapping) : Option (List Char) → Except Error Mapping
  | none => .ok m
  | some tag => do
    let t ← valid content "jdbcType" tag (JdbcType.ofName? (String.ofList tag))
    return { m with jdbcType := some t }

/-- The mapping that the text of a placeholder describes. -/
def parse (content : String) : Except Error Mapping :=
  let s := content.toList
  match Placeholder.parts s with
  | .error inside => .error (.badPlaceholder content (Text.offset s inside) .unbalanced)
  | .ok parts =>
    if !parts.rest.all Text.isBlank then
      .error (.badPlaceholder content (Text.offset s parts.rest) .trailing)
    else do
      let tagged ← setTag content parts.head.mapping parts.tag
      let m ← setAttributes content tagged parts.attributes
      if m.property.isEmpty && m.expression.isNone then
        .error (.badPlaceholder content 0 .noProperty)
      else return m

end Mapping

end QueryTemplate
