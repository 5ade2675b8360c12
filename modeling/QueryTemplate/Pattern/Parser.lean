import QueryTemplate.Decimal.Numeral
import QueryTemplate.Pattern.Basic
import QueryTemplate.Text.Cut
import QueryTemplate.Text.Hex

/-!
# Reading patterns

`Pattern.parse?` reads the usual notation: literals, `.`, classes in brackets, groups,
`|`, the repetitions `*`, `+`, `?` and `{m,n}` with or without a `?` behind them, the
classes `\d`, `\s`, `\w`, the anchors `^`, `$`, `\b`, `\<`, `\>`, `\A`, `\z`, and the flags
`i`, `m`, `s`, `U`, `u` of a group.  A text that is no pattern gives nothing.
-/

namespace QueryTemplate.Pattern

open Text (Shorter)

structure Flags where
  ignoreCase : Bool := false
  multiLine : Bool := false
  dotAll : Bool := false

def literal (flags : Flags) (c : Char) : CharClass :=
  .range c c flags.ignoreCase

/-! ### Escapes -/

/-- What a backslash and the text behind it stand for. -/
inductive Escape
  | char (c : Char)
  | named (s : CharClass)
  | anchor (a : Anchor)

/-- The class, character or anchor of a letter behind a backslash. -/
def letterEscape? (c : Char) : Option Escape :=
  if c == 'd' then some (.named .digit)
  else if c == 'D' then some (.named (.negate .digit))
  else if c == 's' then some (.named .blank)
  else if c == 'S' then some (.named (.negate .blank))
  else if c == 'w' then some (.named .word)
  else if c == 'W' then some (.named (.negate .word))
  else if c == 'n' then some (.char '\n')
  else if c == 't' then some (.char '\t')
  else if c == 'r' then some (.char '\r')
  else if c == 'a' then some (.char '\x07')
  else if c == 'f' then some (.char '\x0c')
  else if c == 'v' then some (.char '\x0b')
  else if c == 'A' then some (.anchor .textStart)
  else if c == 'z' then some (.anchor .textEnd)
  else if c == 'b' then some (.anchor .wordEdge)
  else if c == 'B' then some (.anchor .noWordEdge)
  else if c == '<' then some (.anchor .wordStart)
  else if c == '>' then some (.anchor .wordEnd)
  else if c.toNat < 128 && !c.isAlphanum then some (.char c)
  else none

/-- The character of a code point in hexadecimal digits. -/
def hexChar? (digits : List Char) : Option Char := do
  if digits.isEmpty then none
  let values ← digits.mapM Text.hexValue?
  let n := values.foldl (fun n d => 16 * n + d) 0
  if n.isValidChar then some (Char.ofNat n) else none

/-- The number of digits of a code point behind a letter, if it is not in braces. -/
def hexWidth? (c : Char) : Option Nat :=
  if c == 'x' then some 2
  else if c == 'u' then some 4
  else if c == 'U' then some 8
  else none

/-- A code point behind the letter of its escape. -/
def hexEscape? (width : Nat) (s : List Char) : Option (Char × List Char) :=
  match s with
  | '\x7b' :: inside => do
    let (digits, after) ← Text.cut ['\x7d'] inside
    return (← hexChar? digits, after)
  | _ => do
    let c ← hexChar? (s.take width)
    if s.length < width then none else some (c, s.drop width)

/-- A character of the name of an edge of a word. -/
def isEdgeChar (c : Char) : Bool :=
  c.isAlpha || c == '-'

/-- The named edges of a word. -/
def edgeOf? (name : String) : Option Anchor :=
  [("start", Anchor.wordStart), ("end", .wordEnd), ("start-half", .noWordBefore),
    ("end-half", .noWordAfter)].lookup name

/-- The edge of a word that is named between braces, if a name begins there; the braces of a
repetition are left. -/
def edgeEscape? (inside : List Char) : Option (Escape × List Char) :=
  if inside.head?.any isEdgeChar then
    match inside.dropWhile isEdgeChar with
    | '\x7d' :: after =>
      (edgeOf? (String.ofList (inside.takeWhile isEdgeChar))).map (.anchor ·, after)
    | _ => none
  else some (.anchor .wordEdge, '\x7b' :: inside)

def escape? : List Char → Option (Escape × List Char)
  | [] => none
  | 'b' :: '\x7b' :: inside => edgeEscape? inside
  | c :: rest =>
    match hexWidth? c with
    | some width => (hexEscape? width rest).map fun (c, after) => (.char c, after)
    | none => (letterEscape? c).map (·, rest)

/-- A reading that leaves less than it was given. -/
def progress {α : Type} (s : List Char) (r : Option (α × List Char)) :
    Option (α × Shorter s.length) :=
  r.bind fun (a, rest) => if h : rest.length < s.length then some (a, ⟨rest, h⟩) else none

/-! ### Classes -/

/-- The named classes of the first 128 characters, as pairs of ends. -/
def namedRanges? (name : String) : Option (List (Char × Char)) :=
  [("alnum", [('0', '9'), ('A', 'Z'), ('a', 'z')]),
    ("alpha", [('A', 'Z'), ('a', 'z')]),
    ("ascii", [('\x00', '\x7f')]),
    ("blank", [('\t', '\t'), (' ', ' ')]),
    ("cntrl", [('\x00', '\x1f'), ('\x7f', '\x7f')]),
    ("digit", [('0', '9')]),
    ("graph", [('!', '~')]),
    ("lower", [('a', 'z')]),
    ("print", [(' ', '~')]),
    ("punct", [('!', '/'), (':', '@'), ('[', '\x60'), ('\x7b', '~')]),
    ("space", [('\t', '\r'), (' ', ' ')]),
    ("upper", [('A', 'Z')]),
    ("word", [('0', '9'), ('A', 'Z'), ('a', 'z'), ('_', '_')]),
    ("xdigit", [('0', '9'), ('A', 'F'), ('a', 'f')])].lookup name

/-- A named class behind its opening bracket, as in `[:alpha:]`. -/
def namedClass? (flags : Flags) : List Char → Option (CharClass × List Char)
  | ':' :: rest => do
    let (inside, after) ← Text.cut [':', ']'] rest
    let (negated, name) := match inside with
      | '^' :: name => (true, name)
      | _ => (false, inside)
    let ranges ← namedRanges? (String.ofList name)
    let s := ranges.foldl
      (fun s (low, high) => CharClass.union s (.range low high flags.ignoreCase)) .none
    return (if negated then .negate s else s, after)
  | _ => none

inductive ClassOp
  | inter
  | diff
  | symDiff

def ClassOp.apply : ClassOp → CharClass → CharClass → CharClass
  | .inter, a, b => .inter a b
  | .diff, a, b => .diff a b
  | .symDiff, a, b => .union (.diff a b) (.diff b a)

def classOp? : List Char → Option (ClassOp × List Char)
  | '&' :: '&' :: rest => some (.inter, rest)
  | '-' :: '-' :: rest => some (.diff, rest)
  | '~' :: '~' :: rest => some (.symDiff, rest)
  | _ => none

def classChar? : List Char → Option (Escape × List Char)
  | [] => none
  | '\\' :: rest => escape? rest
  | c :: rest => some (.char c, rest)

/-- Whether a dash at the front of a text joins the two ends of a range. -/
def joinsRange : List Char → Bool
  | '-' :: ']' :: _ => false
  | '-' :: '-' :: _ => false
  | '-' :: _ => true
  | _ => false

/-- A character, a range or a named set of a class. -/
def classItem? (flags : Flags) (s : List Char) : Option (CharClass × List Char) := do
  let (low, rest) ← classChar? s
  if joinsRange rest then
    let (high, after) ← classChar? (rest.drop 1)
    match low, high with
    | .char low, .char high =>
      if low ≤ high then some (.range low high flags.ignoreCase, after) else none
    | _, _ => none
  else match low with
    | .char c => some (literal flags c, rest)
    | .named s => some (s, rest)
    | .anchor _ => none

/-- A class behind its opening bracket: whether it is negated, and the dashes or the bracket
that it starts with. -/
def classStart (flags : Flags) (s : List Char) : Bool × CharClass × List Char :=
  let (negated, s) := match s with
    | '^' :: rest => (true, rest)
    | _ => (false, s)
  let dashes := s.takeWhile (· == '-')
  let rest := s.dropWhile (· == '-')
  let items := if dashes.isEmpty then CharClass.none else literal flags '-'
  match dashes, rest with
  | [], ']' :: rest => (negated, literal flags ']', rest)
  | _, _ => (negated, items, rest)

/-- A class whose items are joined with an operand that waits for them. -/
def closeClass (waiting : Option (CharClass × ClassOp)) (items : CharClass) : CharClass :=
  match waiting with
  | some (left, op) => op.apply left items
  | none => items

/-- The items of a class up to its closing bracket. -/
def classBody (flags : Flags) (waiting : Option (CharClass × ClassOp)) (items : CharClass)
    (s : List Char) : Option (CharClass × List Char) :=
  match s with
  | [] => none
  | ']' :: rest => some (closeClass waiting items, rest)
  | '[' :: rest =>
    match progress ('[' :: rest) (namedClass? flags rest) with
    | some (named, after) => classBody flags waiting (.union items named) after.val
    | none =>
      let (negated, start, inside) := classStart flags rest
      if _h : inside.length < rest.length + 1 then
        match progress ('[' :: rest) (classBody flags none start inside) with
        | some (inner, after) =>
          classBody flags waiting (.union items (if negated then .negate inner else inner))
            after.val
        | none => none
      else none
  | other =>
    match progress other (classOp? other) with
    | some (op, after) =>
      classBody flags (some (closeClass waiting items, op)) .none after.val
    | none =>
      match progress other (classItem? flags other) with
      | some (item, after) => classBody flags waiting (.union items item) after.val
      | none => none
termination_by s.length
decreasing_by
  · exact after.property
  · exact _h
  · exact after.property
  · exact after.property
  · exact after.property

def class? (flags : Flags) (s : List Char) : Option (CharClass × List Char) := do
  let (negated, start, inside) := classStart flags s
  let (inner, after) ← classBody flags none start inside
  return (if negated then .negate inner else inner, after)

/-! ### Groups -/

def Flags.set? (flags : Flags) (on : Bool) (c : Char) : Option Flags :=
  if c == 'i' then some { flags with ignoreCase := on }
  else if c == 'm' then some { flags with multiLine := on }
  else if c == 's' then some { flags with dotAll := on }
  else if c == 'U' || c == 'u' then some flags
  else none

/-- The flags of a group up to `)` or `:`, which is kept.  None may be named twice, and a
dash must be followed by one. -/
def flagsBody (flags : Flags) (seen : List Char) (on dangling : Bool) :
    List Char → Option (Flags × List Char × List Char)
  | [] => none
  | c :: rest =>
    if c == ')' || c == ':' then if dangling then none else some (flags, seen, c :: rest)
    else if c == '-' then if on then flagsBody flags seen false true rest else none
    else if seen.contains c then none
    else match flags.set? on c with
      | some flags => flagsBody flags (c :: seen) on false rest
      | none => none

/-- What a parenthesis opens: flags for the rest of the group around it, or a group with
flags of its own. -/
inductive Opening
  | flags (flags : Flags)
  | group (flags : Flags)

/-- A name of a group up to its closing bracket. -/
def groupName? (s : List Char) : Option (List Char) := do
  let (name, after) ← Text.cut ['>'] s
  match name with
  | c :: rest =>
    if (Text.isLetter c || c == '_') &&
        rest.all (fun c => Text.isAlphanumeric c || ['_', '.', '[', ']'].contains c) then
      some after
    else none
  | [] => none

def opening? (flags : Flags) : List Char → Option (Opening × List Char)
  | '?' :: 'P' :: '<' :: rest => (groupName? rest).map (.group flags, ·)
  | '?' :: '<' :: rest => (groupName? rest).map (.group flags, ·)
  | '?' :: rest => do
    let (inner, seen, after) ← flagsBody flags [] true false rest
    match after with
    | ':' :: after => some (.group inner, after)
    | ')' :: after => if seen.isEmpty then none else some (.flags inner, after)
    | _ => none
  | s => some (.group flags, s)

/-! ### Repetitions -/

def count? (s : List Char) : Option Nat :=
  (Decimal.natural? (Text.trim s)).filter (· < Nat.pow 2 32)

/-- The counts of a repetition in braces: the least number, and the greatest unless there is
none. -/
def counts? (inside : List Char) : Option (Nat × Option Nat) :=
  match Text.cut [','] inside with
  | none => (count? inside).map fun n => (n, some n)
  | some (low, []) => (count? low).map (·, none)
  | some (low, high) => do
    let low ← count? low
    let high ← count? high
    if low ≤ high then some (low, some high) else none

def size : Pattern → Nat
  | .seq a b => size a + size b + 1
  | .alt a b => size a + size b + 1
  | .star a => size a + 1
  | _ => 1

/-- The largest number of parts that a repetition may be spelled out into. -/
def maxSize : Nat := 1000000

def repetition? (p : Pattern) : List Char → Option (Pattern × List Char)
  | '*' :: rest => some (.star p, rest)
  | '+' :: rest => some (repeated p 1 none, rest)
  | '?' :: rest => some (optional p, rest)
  | '\x7b' :: rest => do
    let (inside, after) ← Text.cut ['\x7d'] rest
    let (low, high) ← counts? inside
    if size p * (high.getD low + 1) ≤ maxSize then some (repeated p low high, after) else none
  | _ => none

/-- A text without the mark of a repetition that prefers fewer rounds. -/
def skipLazy : List Char → List Char
  | '?' :: rest => rest
  | s => s

/-! ### Patterns -/

/-- Whether a character is the mark of a repetition. -/
def isRepetition (c : Char) : Bool :=
  c == '*' || c == '+' || c == '?' || c == '\x7b'

/-- The pattern of a character that stands for itself or for a class or anchor of its own. -/
def plain (flags : Flags) (c : Char) : Pattern :=
  if c == '.' then .set (if flags.dotAll then .negate .none else .negate (.range '\n' '\n' false))
  else if c == '^' then .anchor (if flags.multiLine then .lineStart else .textStart)
  else if c == '$' then .anchor (if flags.multiLine then .lineEnd else .textEnd)
  else .set (literal flags c)

def ofEscape (flags : Flags) : Escape → Pattern
  | .char c => .set (literal flags c)
  | .named s => .set s
  | .anchor a => .anchor a

/-- The pattern of some items, where flags have left empty places. -/
def ofItems (items : List (Option Pattern)) : Pattern :=
  seqAll (items.filterMap id)

/-- One of the alternatives, the last of which consists of the items. -/
def ofBranches (branches : List Pattern) (items : List (Option Pattern)) : Pattern :=
  match branches with
  | [] => ofItems items
  | p :: rest => altAll p (rest ++ [ofItems items])

/-- The alternatives at the front of a text, up to a closing parenthesis or the end. -/
def alternatives (flags : Flags) (branches : List Pattern) (items : List (Option Pattern))
    (s : List Char) : Option (Pattern × List Char) :=
  match s with
  | [] => some (ofBranches branches items, [])
  | c :: rest =>
    if c == ')' then some (ofBranches branches items, c :: rest)
    else if c == '|' then alternatives flags (branches ++ [ofItems items]) [] rest
    else if isRepetition c then
      match items.getLast? with
      | some (some p) =>
        match progress (c :: rest) ((repetition? p (c :: rest)).map fun (q, after) => (q, skipLazy after)) with
        | some (q, after) => alternatives flags branches (items.dropLast ++ [some q]) after.val
        | none => none
      | _ => none
    else if c == '(' then
      match progress (c :: rest) (opening? flags rest) with
      | some (.flags inner, after) => alternatives inner branches (items ++ [none]) after.val
      | some (.group inner, after) =>
        match progress (c :: rest) (alternatives inner [] [] after.val) with
        | some (p, closing) =>
          match hc : closing.val with
          | ')' :: after =>
            have : after.length < (c :: rest).length :=
              Nat.lt_of_succ_lt (hc ▸ closing.property : (')' :: after).length < _)
            alternatives flags branches (items ++ [some p]) after
          | _ => none
        | none => none
      | none => none
    else if c == '[' then
      match progress (c :: rest) (class? flags rest) with
      | some (p, after) => alternatives flags branches (items ++ [some (.set p)]) after.val
      | none => none
    else if c == '\\' then
      match progress (c :: rest) (escape? rest) with
      | some (e, after) =>
        alternatives flags branches (items ++ [some (ofEscape flags e)]) after.val
      | none => none
    else alternatives flags branches (items ++ [some (plain flags c)]) rest
termination_by s.length
decreasing_by
  all_goals first
    | exact after.property
    | assumption
    | exact Nat.lt_succ_self _

def parse? (s : List Char) : Option Pattern :=
  match alternatives {} [] [] s with
  | some (p, []) => some p
  | _ => none

end QueryTemplate.Pattern
