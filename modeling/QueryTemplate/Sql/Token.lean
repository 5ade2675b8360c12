import QueryTemplate.Text.Blank
import QueryTemplate.Text.Cut

/-!
# Tokens of a statement

The text of a statement is a row of tokens: quoted literals, in which a doubled
quote stays inside; comments between `/*` and `*/` or from `--` to the end of the
line; parentheses; words of letters, digits and underscores; and single other
characters.  A literal or comment that is never closed goes on to the end.

`flatten_tokens` says that the tokens make up the text again.
-/

namespace QueryTemplate.Sql

inductive Token
  | quoted (text : List Char)
  | comment (text : List Char)
  | opening
  | closing
  | word (text : List Char)
  | symbol (c : Char)
deriving DecidableEq, Repr

/-- The characters of a token. -/
def Token.text : Token → List Char
  | .quoted text => text
  | .comment text => text
  | .opening => ['(']
  | .closing => [')']
  | .word text => text
  | .symbol c => [c]

def isQuote (c : Char) : Bool :=
  c == '\'' || c == '"' || c == '`'

def isWordChar (c : Char) : Bool :=
  c.isAlphanum || c == '_'

/-- Cuts a quoted literal, whose opening quote is gone, behind its closing quote. -/
def cutQuoted (quote : Char) : List Char → List Char × List Char
  | [] => ([], [])
  | [c] => ([c], [])
  | c :: d :: rest =>
    if c == quote then
      if d == quote then
        let (inside, after) := cutQuoted quote rest
        (c :: d :: inside, after)
      else ([c], d :: rest)
    else
      let (inside, after) := cutQuoted quote (d :: rest)
      (c :: inside, after)

/-- Cuts a block comment, whose opening mark is gone, behind its closing mark. -/
def cutBlock (s : List Char) : List Char × List Char :=
  match Text.cut ['*', '/'] s with
  | some (inside, after) => (inside ++ ['*', '/'], after)
  | none => (s, [])

theorem append_cutQuoted (quote : Char) (s : List Char) :
    (cutQuoted quote s).1 ++ (cutQuoted quote s).2 = s := by
  fun_induction cutQuoted quote s <;> simp_all

theorem append_cutBlock (s : List Char) : (cutBlock s).1 ++ (cutBlock s).2 = s := by
  unfold cutBlock
  split
  · rename_i h
    simpa using (Text.eq_of_cut h).symm
  · simp

/-- The first token of a text that starts with `c`, and the text behind it. -/
def first (c : Char) (rest : List Char) : Token × List Char :=
  if isQuote c then
    let (inside, after) := cutQuoted c rest
    (.quoted (c :: inside), after)
  else if c == '/' && rest.head? == some '*' then
    let (inside, after) := cutBlock (rest.drop 1)
    (.comment (c :: '*' :: inside), after)
  else if c == '-' && rest.head? == some '-' then
    (.comment (c :: rest.takeWhile (· != '\n')), rest.dropWhile (· != '\n'))
  else if c == '(' then (.opening, rest)
  else if c == ')' then (.closing, rest)
  else if isWordChar c then (.word (c :: rest.takeWhile isWordChar), rest.dropWhile isWordChar)
  else (.symbol c, rest)

/-- The first token and the text behind it make up the text. -/
theorem append_first (c : Char) (rest : List Char) :
    (first c rest).1.text ++ (first c rest).2 = c :: rest := by
  unfold first
  split
  · simpa [Token.text] using append_cutQuoted c rest
  · split
    · rename_i h
      simp only [Bool.and_eq_true, beq_iff_eq] at h
      cases rest with
      | nil => simp at h
      | cons d r =>
        have hd : d = '*' := by simpa using h.2
        subst hd
        simpa [Token.text] using append_cutBlock r
    · split
      · simp [Token.text]
      · split
        · rename_i h; simp_all [Token.text]
        · split
          · rename_i h; simp_all [Token.text]
          · split <;> simp [Token.text]

theorem Token.length_pos_first (c : Char) (rest : List Char) :
    0 < (first c rest).1.text.length := by
  unfold first
  split
  · simp [Token.text]
  · split
    · simp [Token.text]
    · split
      · simp [Token.text]
      · split
        · simp [Token.text]
        · split
          · simp [Token.text]
          · split <;> simp [Token.text]

theorem length_first_lt (c : Char) (rest : List Char) :
    (first c rest).2.length < (c :: rest).length := by
  have h := congrArg List.length (append_first c rest)
  have hp := Token.length_pos_first c rest
  simp only [List.length_append] at h
  omega

def tokens : List Char → List Token
  | [] => []
  | c :: rest => (first c rest).1 :: tokens (first c rest).2
termination_by s => s.length
decreasing_by exact length_first_lt c rest

def flatten (ts : List Token) : List Char :=
  ts.flatMap Token.text

/-- The tokens of a text make up the text. -/
theorem flatten_tokens (s : List Char) : flatten (tokens s) = s := by
  fun_induction tokens s with
  | case1 => rfl
  | case2 c rest ih =>
    simp only [flatten, List.flatMap_cons] at ih ⊢
    rw [ih, append_first]

end QueryTemplate.Sql
