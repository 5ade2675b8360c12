/-!
# Blanks

`isBlank` is the property White_Space.  Trimming takes blanks off the ends of a
text (`trim`), and `words` cuts a text at its blanks.  `trimmed`, `isAllBlank` and
`collapsed` are the same on strings.
-/

namespace QueryTemplate.Text

/-- White space of any script: the tab-to-return controls, the space, next line,
and the separators. -/
def isBlank (c : Char) : Bool :=
  let n := c.toNat
  (9 ≤ n && n ≤ 13) || n == 0x20 || n == 0x85 || n == 0xA0 || n == 0x1680 ||
    (0x2000 ≤ n && n ≤ 0x200A) || n == 0x2028 || n == 0x2029 || n == 0x202F || n == 0x205F ||
    n == 0x3000

/-- The blanks that may stand between the parts of an expression or a placeholder. -/
def isGap (c : Char) : Bool :=
  c == ' ' || c == '\t' || c == '\r' || c == '\n'

/-- Every gap is a blank. -/
theorem isBlank_of_isGap {c : Char} (h : isGap c = true) : isBlank c = true := by
  simp only [isGap, Bool.or_eq_true, beq_iff_eq] at h
  rcases h with ((rfl | rfl) | rfl) | rfl <;> decide

def skipGaps (s : List Char) : List Char :=
  s.dropWhile isGap

/-- Drops the longest end of a list on which `p` holds. -/
def dropEndWhile {α : Type} (p : α → Bool) (l : List α) : List α :=
  (l.reverse.dropWhile p).reverse

def trimStart (s : List Char) : List Char :=
  s.dropWhile isBlank

def trimEnd (s : List Char) : List Char :=
  dropEndWhile isBlank s

def trim (s : List Char) : List Char :=
  trimEnd (trimStart s)

/-- Cuts a text at every character of a kind; neighbours of that kind leave empty pieces. -/
def cutAt (p : Char → Bool) : List Char → List (List Char)
  | [] => [[]]
  | c :: rest =>
    if p c then [] :: cutAt p rest
    else match cutAt p rest with
      | [] => [[c]]
      | piece :: pieces => (c :: piece) :: pieces

def fields (p : Char → Bool) (s : List Char) : List (List Char) :=
  (cutAt p s).filter fun piece => !piece.isEmpty

def words (s : List Char) : List (List Char) :=
  fields isBlank s

/-! ### On strings -/

def trimmed (s : String) : String :=
  String.ofList (trim s.toList)

def trimmedEnd (s : String) : String :=
  String.ofList (trimEnd s.toList)

def isAllBlank (s : String) : Bool :=
  s.toList.all isBlank

/-- The words of a string, one space between them. -/
def collapsed (s : String) : String :=
  String.intercalate " " ((words s.toList).map String.ofList)

/-! ### Laws -/

@[simp] theorem toList_trimmed (s : String) : (trimmed s).toList = trim s.toList := by
  simp [trimmed]

@[simp] theorem toList_trimmedEnd (s : String) : (trimmedEnd s).toList = trimEnd s.toList := by
  simp [trimmedEnd]

theorem length_dropWhile_le {α : Type} (p : α → Bool) (l : List α) :
    (l.dropWhile p).length ≤ l.length :=
  (List.dropWhile_sublist p).length_le

theorem length_skipGaps_le (s : List Char) : (skipGaps s).length ≤ s.length :=
  length_dropWhile_le isGap s

/-- What is left after dropping an end does not itself end that way. -/
theorem dropEndWhile_append_of_not {α : Type} (p : α → Bool) (l : List α) {a : α}
    (h : p a = false) : dropEndWhile p (l ++ [a]) = l ++ [a] := by
  simp [dropEndWhile, h]

@[simp] theorem trim_nil : trim [] = [] := rfl

end QueryTemplate.Text
