import QueryTemplate.Expr.Basic
import QueryTemplate.Decimal.Numeral
import QueryTemplate.Text.Blank
import QueryTemplate.Text.Cut

/-!
# Reading expressions

`Expr.parse` reads a whole text as an expression or says at which byte it stops
being one.

Each reading step takes something off the front of a text and returns the rest with
a proof that it is shorter (`Outcome`), which is why the steps end.  A step that
does not find what it looks for is a `miss`, and another way of reading may be tried
at the same place; a string that is never closed and a call of an unknown method are
a `halt`, after which nothing else is tried.
-/

namespace QueryTemplate.Expr

open Text (Shorter strip? skipGaps length_skipGaps_le)

/-- What became of reading at the front of a text.  Failing steps keep the text from the
place of the fault on. -/
inductive Outcome (α : Type) (bound : Nat)
  | ok (value : α) (rest : List Char) (shorter : rest.length < bound)
  | miss (place : List Char)
  | halt (place : List Char)

def Outcome.widen {α : Type} {m n : Nat} (h : m ≤ n) : Outcome α m → Outcome α n
  | .ok value rest shorter => .ok value rest (Nat.lt_of_lt_of_le shorter h)
  | .miss place => .miss place
  | .halt place => .halt place

/-! ### Tokens -/

/-- Takes one spelling of an operator off the front of a text. -/
def Spelling.strip? : Spelling → (s : List Char) → Option (Shorter s.length)
  | .sign text, s => Text.strip? text.toList s
  | .word text, s => (Text.strip? text.toList s).filter fun r => !r.val.head?.any isNameChar

/-- An operator of the level at the front of a text. -/
def operator? (level : Level) (s : List Char) : Option (BinaryOp × Shorter s.length) :=
  level.spellings.findSome? fun (spelling, op) => (spelling.strip? s).map fun rest => (op, rest)

/-- A sign of negation at the front of a text. -/
def negation? (s : List Char) : Option (Shorter s.length) :=
  negations.findSome? (·.strip? s)

def mark? (c : Char) (s : List Char) : Option (Shorter s.length) :=
  (strip? [c] (skipGaps s)).map fun r =>
    ⟨r.val, Nat.lt_of_lt_of_le r.property (length_skipGaps_le s)⟩

/-- A name at the front of a text, reserved or not. -/
def name? : (s : List Char) → Option (String × Shorter s.length)
  | [] => none
  | c :: rest =>
    if isNameStart c then
      some (String.ofList (c :: rest.takeWhile isNameChar), ⟨rest.dropWhile isNameChar,
        Nat.lt_succ_of_le (Text.length_dropWhile_le isNameChar rest)⟩)
    else none

/-- A point and the name of a member, with gaps before both. -/
def member? (s : List Char) : Option (String × Shorter s.length) := do
  let point ← mark? '.' s
  let (name, rest) ← name? (skipGaps point.val)
  return (name, ⟨rest.val, by
    have h1 := rest.property
    have h2 := length_skipGaps_le point.val
    have h3 := point.property
    omega⟩)

/-- The two parentheses of a call, with gaps before both. -/
def emptyCall? (s : List Char) : Option (Shorter s.length) := do
  let start ← mark? '(' s
  let rest ← mark? ')' start.val
  return ⟨rest.val, Nat.lt_trans rest.property start.property⟩

/-- The character that a letter after a backslash stands for. -/
def unescape (c : Char) : Char :=
  if c == 'n' then '\n' else if c == 't' then '\t' else if c == 'r' then '\r' else c

/-- The characters of a string up to its closing quote. -/
def stringBody? (quote : Char) : (s : List Char) → Option (List Char × Shorter s.length)
  | [] => none
  | '\\' :: c :: rest =>
    (stringBody? quote rest).map fun (body, r) =>
      (unescape c :: body, ⟨r.val, by
        have := r.property; simp only [List.length_cons]; omega⟩)
  | c :: rest =>
    if c == quote then some ([], ⟨rest, by simp⟩)
    else if c == '\\' then none
    else
      (stringBody? quote rest).map fun (body, r) =>
        (c :: body, ⟨r.val, by
          have := r.property; simp only [List.length_cons]; omega⟩)

/-- The float of a numeral with a point; one out of range is none. -/
def fraction? (whole fraction : List Char) : Option Value :=
  let x := Decimal.nearest (Decimal.valueOfDigits (whole ++ fraction)) (-fraction.length)
  if x.isFinite then some (.number (.float x)) else none

/-- The number of a numeral without a point; one beyond a signed word is none. -/
def whole? (digits : List Char) : Option Value :=
  let n := Decimal.valueOfDigits digits
  if (n : Int) ≤ maxSigned then some (Value.ofInt n) else none

/-- A numeral at the front of a text: digits, and a point with digits if there are some. -/
def numeral? (s : List Char) : Option (Value × List Char) :=
  let digits := s.takeWhile Char.isDigit
  let rest := s.dropWhile Char.isDigit
  if digits.isEmpty then none
  else match rest with
    | '.' :: after =>
      let fraction := after.takeWhile Char.isDigit
      if fraction.isEmpty then (whole? digits).map (·, rest)
      else (fraction? digits fraction).map (·, after.dropWhile Char.isDigit)
    | _ => (whole? digits).map (·, rest)

theorem length_of_numeral? {s : List Char} {v : Value} {rest : List Char}
    (h : numeral? s = some (v, rest)) : rest.length < s.length := by
  have hsplit : s.length =
      (s.takeWhile Char.isDigit).length + (s.dropWhile Char.isDigit).length := by
    rw [← List.length_append, List.takeWhile_append_dropWhile]
  simp only [numeral?] at h
  split at h
  · simp at h
  · rename_i hd
    have hpos : 0 < (s.takeWhile Char.isDigit).length := by
      simpa [List.length_pos_iff] using hd
    split at h
    · rename_i after hrest
      split at h
      · obtain ⟨_, -, heq⟩ := Option.map_eq_some_iff.1 h
        simp only [Prod.mk.injEq] at heq
        rw [← heq.2]; omega
      · obtain ⟨_, -, heq⟩ := Option.map_eq_some_iff.1 h
        simp only [Prod.mk.injEq] at heq
        have := Text.length_dropWhile_le Char.isDigit after
        have hl : (s.dropWhile Char.isDigit).length = after.length + 1 := by simp [hrest]
        rw [← heq.2]; omega
    · obtain ⟨_, -, heq⟩ := Option.map_eq_some_iff.1 h
      simp only [Prod.mk.injEq] at heq
      rw [← heq.2]; omega

def constant? (s : List Char) : Option (Value × Shorter s.length) :=
  [("null", Value.null), ("true", .bool true), ("false", .bool false)].findSome?
    fun (text, value) => ((Spelling.word text).strip? s).map fun rest => (value, rest)

/-- A literal or a variable at the front of a text. -/
def atom (s : List Char) : Outcome Expr s.length :=
  match constant? s with
  | some (value, rest) => .ok (.literal value) rest.val rest.property
  | none =>
    match h : numeral? s with
    | some (value, rest) => .ok (.literal value) rest (length_of_numeral? h)
    | none =>
      match s with
      | [] => .miss []
      | c :: rest =>
        if c == '\'' || c == '"' then
          match stringBody? c rest with
          | some (body, after) =>
            .ok (.literal (.string (String.ofList body))) after.val
              (Nat.lt_succ_of_lt after.property)
          | none => .halt (c :: rest)
        else
          match name? (c :: rest) with
          | some (name, after) =>
            if reserved.contains name then .miss (c :: rest)
            else .ok (.variable name) after.val after.property
          | none => .miss (c :: rest)

/-! ### Expressions -/

/-- A number for each level, so that an operand's level has a smaller one. -/
def Level.rank : Level → Nat
  | .disjunction => 14
  | .conjunction => 12
  | .equality => 10
  | .relational => 8
  | .additive => 6
  | .multiplicative => 4

theorem Level.rank_le (level : Level) : level.rank ≤ 14 := by
  cases level <;> decide

theorem Level.le_rank (level : Level) : 4 ≤ level.rank := by
  cases level <;> decide

mutual

/-- An expression in parentheses, a literal or a variable. -/
def primary (s : List Char) : Outcome Expr s.length :=
  match s with
  | '(' :: rest =>
    match chain .disjunction rest with
    | .ok e after _ =>
      match mark? ')' after with
      | some tail => .ok e tail.val (by
          have := tail.property; simp only [List.length_cons]; omega)
      | none => .miss ('(' :: rest)
    | .miss _ => .miss ('(' :: rest)
    | .halt place => .halt place
  | other => atom other
termination_by 20 * s.length
decreasing_by simp only [Level.rank, List.length_cons]; omega

/-- The members, calls and indexes behind `base`.  An index that cannot be read is left
where it stands. -/
def suffixes (base : Expr) (s : List Char) : Outcome Expr (s.length + 1) :=
  match member? s with
  | some (name, rest) =>
    have := rest.property
    match emptyCall? rest.val with
    | some after =>
      have := after.property
      match Method.ofName? name with
      | some method => (suffixes (.call base method) after.val).widen (by omega)
      | none => .halt rest.val
    | none => (suffixes (.member base name) rest.val).widen (by omega)
  | none =>
    match mark? '[' s with
    | none => .ok base s (Nat.lt_succ_self _)
    | some inner =>
      have := inner.property
      match chain .disjunction inner.val with
      | .ok key after hafter =>
        match mark? ']' after with
        | some rest =>
          have := rest.property
          (suffixes (.index base key) rest.val).widen (by omega)
        | none => .ok base s (Nat.lt_succ_self _)
      | .miss _ => .ok base s (Nat.lt_succ_self _)
      | .halt _ => .ok base s (Nat.lt_succ_self _)
termination_by 20 * s.length
decreasing_by
  · omega
  · omega
  · simp only [Level.rank]; omega
  · omega

def postfixed (s : List Char) : Outcome Expr s.length :=
  have hs := length_skipGaps_le s
  match primary (skipGaps s) with
  | .ok base rest hrest => (suffixes base rest).widen (by omega)
  | .miss place => .miss place
  | .halt place => .halt place
termination_by 20 * s.length + 1

/-- An operand with its signs of negation, behind gaps. -/
def unary (s : List Char) : Outcome Expr s.length :=
  have hs := length_skipGaps_le s
  match negation? (skipGaps s) with
  | some rest =>
    have := rest.property
    match unary rest.val with
    | .ok e after h => .ok (.not e) after (by omega)
    | .miss _ => .miss (skipGaps s)
    | .halt place => .halt place
  | none =>
    match strip? ['-'] (skipGaps s) with
    | some rest =>
      have := rest.property
      match unary rest.val with
      | .ok e after h => .ok (.negate e) after (by omega)
      | .miss _ => .miss (skipGaps s)
      | .halt place => .halt place
    | none => (postfixed (skipGaps s)).widen hs
termination_by 20 * s.length + 2

def operand (level : Level) (s : List Char) : Outcome Expr s.length :=
  match level with
  | .disjunction => chain .conjunction s
  | .conjunction => chain .equality s
  | .equality => chain .relational s
  | .relational => chain .additive s
  | .additive => chain .multiplicative s
  | .multiplicative => unary s
termination_by 20 * s.length + level.rank - 1
decreasing_by all_goals simp only [Level.rank]; omega

/-- The operators of a level and their operands behind `left`, grouped to the left. -/
def links (level : Level) (left : Expr) (s : List Char) : Outcome Expr (s.length + 1) :=
  match operator? level (skipGaps s) with
  | none => .ok left s (Nat.lt_succ_self _)
  | some (op, rest) =>
    have := rest.property
    have := length_skipGaps_le s
    match operand level rest.val with
    | .ok right after _ => (links level (.binary op left right) after).widen (by omega)
    | .miss place => .miss place
    | .halt place => .halt place
termination_by 20 * s.length
decreasing_by
  · have := level.rank_le; omega
  · omega

/-- Operands with the operators of a level between them. -/
def chain (level : Level) (s : List Char) : Outcome Expr s.length :=
  match operand level s with
  | .ok left rest hrest => (links level left rest).widen (by omega)
  | .miss place => .miss place
  | .halt place => .halt place
termination_by 20 * s.length + level.rank
decreasing_by
  · have := level.le_rank; omega
  · omega

end

/-- Reads a whole text as an expression; a text that is none gives the byte where it stops
being one. -/
def parse (text : String) : Except Nat Expr :=
  let s := text.toList
  let fault (place : List Char) : Except Nat Expr := .error (Text.offset s place)
  match chain .disjunction s with
  | .ok e rest _ => if (skipGaps rest).isEmpty then .ok e else fault (skipGaps rest)
  | .miss place => fault place
  | .halt place => fault place

end QueryTemplate.Expr
