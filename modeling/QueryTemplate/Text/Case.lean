import QueryTemplate.Text.Case.Table

/-!
# Upper and lower case

`upperOf` and `lowerOf` map one character to the characters of its other case;
`uppercase` and `lowercase` map a whole text.  A capital sigma that ends a word is
lowered to the final form.  `asciiUppercase` touches the letters `a` to `z` alone,
and `foldOf` sends characters that differ in case only to one representative.
-/

namespace QueryTemplate.Text

/-- The single character that a table of runs gives for `c`. -/
def shiftBy (runs : List CaseRun) (c : Char) : Char :=
  match runs.find? (·.covers c.toNat) with
  | some run => Char.ofNat (Int.toNat (c.toNat + run.shift))
  | none => c

/-- The characters that the two tables of one case give for `c`. -/
def mapBy (runs : List CaseRun) (expansions : List (Nat × List Nat)) (c : Char) : List Char :=
  match expansions.lookup c.toNat with
  | some codes => codes.map Char.ofNat
  | none => [shiftBy runs c]

def upperOf (c : Char) : List Char :=
  mapBy upperRuns upperExpansions c

/-- The lower case of a character that stands alone. -/
def lowerOf (c : Char) : List Char :=
  mapBy lowerRuns lowerExpansions c

def uppercase (s : List Char) : List Char :=
  s.flatMap upperOf

/-- Whether the first character that matters for case is a cased one. -/
def meetsCased (s : List Char) : Bool :=
  match s.dropWhile caseIgnorable.contains with
  | c :: _ => cased.contains c
  | [] => false

/-- The lower case of `rest`, where `before` holds the characters in front of it,
nearest first. -/
def lowercaseAfter (before : List Char) : List Char → List Char
  | [] => []
  | c :: rest =>
    (if c == 'Σ' then (if meetsCased before && !meetsCased rest then ['ς'] else ['σ'])
      else lowerOf c) ++ lowercaseAfter (c :: before) rest

def lowercase (s : List Char) : List Char :=
  lowercaseAfter [] s

/-- The upper case of the letters `a` to `z`; every other character stays. -/
def asciiUppercase (s : List Char) : List Char :=
  s.map Char.toUpper

/-- Equality up to the case of the letters `a` to `z`. -/
def eqIgnoreCase (s t : List Char) : Bool :=
  asciiUppercase s == asciiUppercase t

/-- One representative for all characters that differ in case only.  A dotless `i` is the
lower case of no other letter. -/
def foldOf (c : Char) : Char :=
  match caseTwins.lookup c.toNat with
  | some code => Char.ofNat code
  | none => if c == 'ı' then c else shiftBy lowerRuns (shiftBy upperRuns c)

@[simp] theorem length_asciiUppercase (s : List Char) :
    (asciiUppercase s).length = s.length := by
  simp [asciiUppercase]

theorem asciiUppercase_append (s t : List Char) :
    asciiUppercase (s ++ t) = asciiUppercase s ++ asciiUppercase t := by
  simp [asciiUppercase]

end QueryTemplate.Text
