import QueryTemplate.Text.Blank
import QueryTemplate.Text.Case
import QueryTemplate.Text.Letter

/-!
# Patterns

Regular expressions over characters: classes, the two ends of a text, sequences,
alternatives and repetitions.  `Pattern.repeated` and its kin spell counted
repetitions out.
-/

namespace QueryTemplate

/-- A set of characters as a pattern describes it. -/
inductive CharClass
  | none
  /-- The characters from one to another; folded, those that differ from one of them in
  case too. -/
  | range (low high : Char) (folded : Bool)
  | blank
  | digit
  | word
  | union (a b : CharClass)
  | inter (a b : CharClass)
  | diff (a b : CharClass)
  | negate (a : CharClass)
deriving DecidableEq, Repr

namespace CharClass

/-- The characters that a run maps to the code point `n`, at most one. -/
def sourceOf? (n : Nat) (run : Text.CaseRun) : Option Char :=
  let source := Int.toNat (n - run.shift)
  if run.covers source then some (Char.ofNat source) else Option.none

/-- The characters that differ from `c` in case only, with `c` itself. -/
def variants (c : Char) : List Char :=
  let lower := Text.foldOf c
  let upper := Text.shiftBy Text.upperRuns lower
  let sources :=
    Text.upperRuns.filterMap (sourceOf? upper.toNat) ++
      Text.lowerRuns.filterMap (sourceOf? lower.toNat)
  let twins := (Text.caseTwins.filter (·.2 == lower.toNat)).map fun twin => Char.ofNat twin.1
  c :: (lower :: upper :: sources ++ twins).filter fun d => Text.foldOf d == lower

def between (low high c : Char) : Bool :=
  low ≤ c && c ≤ high

def holds : CharClass → Char → Bool
  | none, _ => false
  | range low high folded, c =>
    between low high c || (folded && (variants c).any (between low high))
  | blank, c => Text.isBlank c
  | digit, c => Text.isDecimalDigit c
  | word, c => Text.isWord c
  | union a b, c => a.holds c || b.holds c
  | inter a b, c => a.holds c && b.holds c
  | diff a b, c => a.holds c && !b.holds c
  | negate a, c => !a.holds c

end CharClass

/-- A place between two characters that a pattern may ask for. -/
inductive Anchor
  | textStart
  | textEnd
  | lineStart
  | lineEnd
  | wordEdge
  | noWordEdge
  | wordStart
  | wordEnd
  | noWordBefore
  | noWordAfter
deriving DecidableEq, Repr

inductive Pattern
  | empty
  | set (s : CharClass)
  | anchor (a : Anchor)
  | seq (a b : Pattern)
  | alt (a b : Pattern)
  | star (a : Pattern)
deriving DecidableEq, Repr

namespace Pattern

def seqAll : List Pattern → Pattern
  | [] => .empty
  | [p] => p
  | p :: rest => .seq p (seqAll rest)

/-- One of two patterns after others were tried. -/
def altAll (first : Pattern) : List Pattern → Pattern
  | [] => first
  | p :: rest => .alt first (altAll p rest)

def optional (p : Pattern) : Pattern :=
  .alt p .empty

def times (p : Pattern) (n : Nat) : Pattern :=
  seqAll (List.replicate n p)

def upTo (p : Pattern) : Nat → Pattern
  | 0 => .empty
  | n + 1 => optional (.seq p (upTo p n))

/-- The pattern at least `low` times, and at most `high` times if that is given. -/
def repeated (p : Pattern) (low : Nat) : Option Nat → Pattern
  | none => .seq (times p low) (.star p)
  | some high => .seq (times p low) (upTo p (high - low))

end Pattern

end QueryTemplate
