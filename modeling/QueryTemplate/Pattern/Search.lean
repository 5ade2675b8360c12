import QueryTemplate.Pattern.Basic

/-!
# Searching with a pattern

A search keeps what is still to be matched as a list of patterns.  `matchesEmpty`
says whether a pattern can end at a place, which depends on the characters on both
sides of the place through anchors alone; `step` says what is left of a pattern once
a character has been read.  `found` looks for a match anywhere in a text.
-/

namespace QueryTemplate.Pattern

/-- A place in a text: the characters before and after it. -/
structure Place where
  before : Option Char
  after : Option Char

/-- Whether a character of a word stands before a place. -/
def Place.wordBefore (p : Place) : Bool :=
  p.before.any Text.isWord

/-- Whether a character of a word stands after a place. -/
def Place.wordAfter (p : Place) : Bool :=
  p.after.any Text.isWord

def Place.allows (p : Place) : Anchor → Bool
  | .textStart => p.before.isNone
  | .textEnd => p.after.isNone
  | .lineStart => p.before.all (· == '\n')
  | .lineEnd => p.after.all (· == '\n')
  | .wordEdge => p.wordBefore != p.wordAfter
  | .noWordEdge => p.wordBefore == p.wordAfter
  | .wordStart => !p.wordBefore && p.wordAfter
  | .wordEnd => p.wordBefore && !p.wordAfter
  | .noWordBefore => !p.wordBefore
  | .noWordAfter => !p.wordAfter

/-- Whether a pattern can match nothing at a place. -/
def matchesEmpty (p : Place) : Pattern → Bool
  | .empty => true
  | .set _ => false
  | .anchor a => p.allows a
  | .seq a b => matchesEmpty p a && matchesEmpty p b
  | .alt a b => matchesEmpty p a || matchesEmpty p b
  | .star _ => true

/-- A pattern behind what is left of another one. -/
def behind (b : Pattern) : Pattern → Pattern
  | .empty => b
  | a => .seq a b

/-- What may be left of a pattern after it has read the character behind a place. -/
def step (p : Place) (c : Char) : Pattern → List Pattern
  | .empty => []
  | .set s => if s.holds c then [.empty] else []
  | .anchor _ => []
  | .seq a b => (step p c a).map (behind b) ++ if matchesEmpty p a then step p c b else []
  | .alt a b => step p c a ++ step p c b
  | .star a => (step p c a).map (behind (.star a))

/-- Whether the pattern, or one of those that are left over from matches begun before,
matches from a place on. -/
def foundFrom (pattern : Pattern) (before : Option Char) (open_ : List Pattern) :
    List Char → Bool
  | [] => (pattern :: open_).any (matchesEmpty ⟨before, none⟩)
  | c :: rest =>
    let place : Place := ⟨before, some c⟩
    let states := pattern :: open_
    states.any (matchesEmpty place) ||
      foundFrom pattern (some c) ((states.flatMap (step place c)).eraseDups) rest

def found (pattern : Pattern) (s : List Char) : Bool :=
  foundFrom pattern none [] s

end QueryTemplate.Pattern
