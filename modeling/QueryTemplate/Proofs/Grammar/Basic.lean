import QueryTemplate.Expr.Parser

/-!
# How expressions are written

`Expr.Written p e s` says that the text `s` writes the expression `e` at a place that
takes the expressions binding as tightly as `p`.  Each operator may be written in any of its
spellings, a string in either quotes with any of its characters escaped, and gaps may
stand between the parts; next to a word there has to be one.  An expression that binds
more loosely than its place asks for needs parentheses (`Written.parens`), and operators of
one level are grouped to the left (`Written.binary`).

Not every expression can be written: `Expr.isPlain` says which ones can.  `Expr.print` is
one way to do it, with no more parentheses than needed.
-/

namespace QueryTemplate

def Text.IsGaps (g : List Char) : Prop :=
  ∀ c ∈ g, Text.isGap c = true

namespace Expr

open Text (IsGaps)

/-! ### Places -/

/-- Where an expression stands, by how tightly it has to bind there. -/
inductive Place
  | level (l : Level)
  | unary
  | postfixed
deriving DecidableEq

/-- The looser a place, the larger its number. -/
def Place.rank : Place → Nat
  | .level l => l.rank
  | .unary => 2
  | .postfixed => 0

/-- The place of the operands of a level, but for the left ones: these may have operators of
the level itself. -/
def Level.operands : Level → Place
  | .disjunction => .level .conjunction
  | .conjunction => .level .equality
  | .equality => .level .relational
  | .relational => .level .additive
  | .additive => .level .multiplicative
  | .multiplicative => .unary

/-! ### Tokens -/

def Spelling.chars : Spelling → List Char
  | .sign text => text.toList
  | .word text => text.toList

def Spelling.isWord : Spelling → Bool
  | .sign _ => false
  | .word _ => true

/-- Whether the gaps may stand next to the spelling: around a word there are some. -/
def Spelling.Beside (spelling : Spelling) (g : List Char) : Prop :=
  IsGaps g ∧ (spelling.isWord = true → g ≠ [])

/-- Whether a text is a name, reserved or not. -/
def isName (name : String) : Bool :=
  match name.toList with
  | [] => false
  | c :: rest => isNameStart c && rest.all isNameChar

/-- The text between two quotes writes the characters of a string.  Every character but the
quote and the backslash may stand for itself. -/
inductive WrittenInside (quote : Char) : List Char → List Char → Prop
  | nil : WrittenInside quote [] []
  | itself {c body s} (hquote : c ≠ quote) (hslash : c ≠ '\\') (h : WrittenInside quote body s) :
      WrittenInside quote (c :: body) (c :: s)
  | escaped {c body s} (h : WrittenInside quote body s) :
      WrittenInside quote (unescape c :: body) ('\\' :: c :: s)

inductive WrittenLiteral : Value → List Char → Prop
  | null : WrittenLiteral .null "null".toList
  | bool (b : Bool) : WrittenLiteral (.bool b) (if b then "true" else "false").toList
  | whole {n : Whole} {digits : List Char} (hdigits : digits ≠ [])
      (hdigit : ∀ c ∈ digits, c.isDigit = true)
      (hvalue : (Decimal.valueOfDigits digits : Int) = n.val) (hsigned : n.val ≤ maxSigned) :
      WrittenLiteral (.number (.whole n)) digits
  | string {quote : Char} {body s : List Char} (hquote : quote = '\'' ∨ quote = '"')
      (h : WrittenInside quote body s) :
      WrittenLiteral (.string (String.ofList body)) (quote :: s ++ [quote])

/-! ### Expressions -/

/-- The text writes the expression at the place. -/
inductive Written : Place → Expr → List Char → Prop
  | operand {l e s} (h : Written (Level.operands l) e s) : Written (.level l) e s
  | binary {l spelling op left right s t g g'} (hop : (spelling, op) ∈ Level.spellings l)
      (hleft : Written (.level l) left s) (hg : spelling.Beside g) (hg' : spelling.Beside g')
      (hright : Written l.operands right t) :
      Written (.level l) (.binary op left right) (s ++ (g ++ (spelling.chars ++ (g' ++ t))))
  | not {spelling e s g} (hop : spelling ∈ negations) (hg : spelling.Beside g)
      (h : Written .unary e s) : Written .unary (.not e) (spelling.chars ++ (g ++ s))
  | negate {e s g} (hg : IsGaps g) (h : Written .unary e s) :
      Written .unary (.negate e) ('-' :: (g ++ s))
  | postfixed {e s} (h : Written .postfixed e s) : Written .unary e s
  | member {base name s g g'} (h : Written .postfixed base s) (hg : IsGaps g) (hg' : IsGaps g')
      (hname : isName name = true) :
      Written .postfixed (.member base name) (s ++ (g ++ '.' :: (g' ++ name.toList)))
  | call {base method name s g g' i i'} (h : Written .postfixed base s) (hg : IsGaps g)
      (hg' : IsGaps g') (hmethod : Method.ofName? name = some method) (hi : IsGaps i)
      (hi' : IsGaps i') :
      Written .postfixed (.call base method)
        (s ++ (g ++ '.' :: (g' ++ (name.toList ++ (i ++ '(' :: (i' ++ [')']))))))
  | index {base key s t g i i'} (h : Written .postfixed base s) (hg : IsGaps g) (hi : IsGaps i)
      (hkey : Written (.level .disjunction) key t) (hi' : IsGaps i') :
      Written .postfixed (.index base key) (s ++ (g ++ '[' :: (i ++ (t ++ (i' ++ [']'])))))
  | parens {e s i i'} (hi : IsGaps i) (h : Written (.level .disjunction) e s) (hi' : IsGaps i') :
      Written .postfixed e ('(' :: (i ++ (s ++ (i' ++ [')']))))
  | literal {value s} (h : WrittenLiteral value s) : Written .postfixed (.literal value) s
  | named {name : String} (hname : isName name = true) (hfree : name ∉ reserved) :
      Written .postfixed (.variable name) name.toList

/-- The whole text writes the expression, with gaps in front of it and behind it. -/
def Renders (e : Expr) (text : String) : Prop :=
  ∃ g s g', IsGaps g ∧ IsGaps g' ∧ text.toList = g ++ (s ++ g') ∧
    Written (.level .disjunction) e s

/-! ### Which expressions can be written -/

/-- Whether a literal can be written: `null`, a boolean, a string, or a whole number from
zero to the largest of a signed word. -/
def isPlainLiteral : Value → Bool
  | .null => true
  | .bool _ => true
  | .number (.whole n) => 0 ≤ n.val && n.val ≤ maxSigned
  | .number (.float _) => false
  | .string _ => true
  | .array _ => false
  | .object _ => false

/-- Whether an expression can be written: its variables are names that are not reserved, its
members are names, and its literals can be written. -/
def isPlain : Expr → Bool
  | .literal value => isPlainLiteral value
  | .variable name => isName name && !reserved.contains name
  | .member base name => base.isPlain && isName name
  | .index base key => base.isPlain && key.isPlain
  | .call base _ => base.isPlain
  | .not e => e.isPlain
  | .negate e => e.isPlain
  | .binary _ left right => left.isPlain && right.isPlain

def hasFloat : Expr → Bool
  | .literal (.number (.float _)) => true
  | .literal _ => false
  | .variable _ => false
  | .member base _ => base.hasFloat
  | .index base key => base.hasFloat || key.hasFloat
  | .call base _ => base.hasFloat
  | .not e => e.hasFloat
  | .negate e => e.hasFloat
  | .binary _ left right => left.hasFloat || right.hasFloat

/-! ### Printing -/

def sign : BinaryOp → String
  | .or => "||"
  | .and => "&&"
  | .eq => "=="
  | .ne => "!="
  | .lt => "<"
  | .le => "<="
  | .gt => ">"
  | .ge => ">="
  | .add => "+"
  | .sub => "-"
  | .mul => "*"
  | .div => "/"
  | .rem => "%"

def levelOf : BinaryOp → Level
  | .or => .disjunction
  | .and => .conjunction
  | .eq => .equality
  | .ne => .equality
  | .lt => .relational
  | .le => .relational
  | .gt => .relational
  | .ge => .relational
  | .add => .additive
  | .sub => .additive
  | .mul => .multiplicative
  | .div => .multiplicative
  | .rem => .multiplicative

def methodName : Method → String
  | .size => "size"
  | .isEmpty => "isEmpty"
  | .trim => "trim"
  | .toUpperCase => "toUpperCase"
  | .toLowerCase => "toLowerCase"

def printChar (c : Char) : List Char :=
  if c == '\'' || c == '\\' then ['\\', c] else [c]

def printLiteral : Value → List Char
  | .null => "null".toList
  | .bool b => (if b then "true" else "false").toList
  | .number (.whole n) => Nat.toDigits 10 n.val.toNat
  | .number (.float _) => []
  | .string s => '\'' :: s.toList.flatMap printChar ++ ['\'']
  | .array _ => []
  | .object _ => []

/-- A text of the place `q`, in parentheses if it has to bind more tightly. -/
def enclosed (p q : Place) (s : List Char) : List Char :=
  if q.rank ≤ p.rank then s else '(' :: (s ++ [')'])

/-- A text for an expression at a place, with a sign for each operator and no more
parentheses than needed. -/
def print (p : Place) : Expr → List Char
  | .literal value => printLiteral value
  | .variable name => name.toList
  | .member base name => print .postfixed base ++ '.' :: name.toList
  | .index base key => print .postfixed base ++ '[' :: (print (.level .disjunction) key ++ [']'])
  | .call base method => print .postfixed base ++ '.' :: ((methodName method).toList ++ ['(', ')'])
  | .not e => enclosed p .unary ('!' :: print .unary e)
  | .negate e => enclosed p .unary ('-' :: print .unary e)
  | .binary op left right =>
    enclosed p (.level (levelOf op)) (print (.level (levelOf op)) left ++
      ' ' :: ((sign op).toList ++ ' ' :: print (levelOf op).operands right))

def text (e : Expr) : String :=
  String.ofList (e.print (.level .disjunction))

end Expr

end QueryTemplate
