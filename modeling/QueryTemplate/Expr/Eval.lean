import QueryTemplate.Expr.Basic
import QueryTemplate.Expr.Comparison
import QueryTemplate.Binary.Remainder
import QueryTemplate.Text.Blank
import QueryTemplate.Text.Case
import QueryTemplate.Value.Render

/-!
# The value of an expression

`Expr.eval` computes an expression over the variables that a lookup gives.  A
variable, a member or an item that is missing is `null`, and so is everything that
is looked up in `null`.

Arithmetic on signed words is exact or a fault; as soon as an operand is another
number it is arithmetic of floats, whose results must be finite.
-/

namespace QueryTemplate

/-- Why an expression has no value. -/
inductive Fault
  | noMember (base : Value) (name : String)
  | badPosition (n : Number)
  | noIndex (base : Value) (key : Value)
  | noMethod (base : Value) (method : Method)
  | noNegation (v : Value)
  | noArithmetic (left : Value) (op : BinaryOp) (right : Value)
  | divisionByZero
  | overflow (op : BinaryOp)
  | notFinite (x : Float)
  | noOrder (left : Value) (right : Value)

def Fault.message : Fault → String
  | .noMember base name => "cannot read property '" ++ name ++ "' of " ++ base.text
  | .badPosition n => "invalid list index " ++ String.ofList n.render
  | .noIndex base key => "cannot index " ++ base.text ++ " with " ++ key.text
  | .noMethod base method => "cannot call " ++ method.title ++ " on " ++ base.text
  | .noNegation v => "cannot negate " ++ v.text
  | .noArithmetic left op right =>
    "cannot apply " ++ op.title ++ " to " ++ left.text ++ " and " ++ right.text
  | .divisionByZero => "division by zero"
  | .overflow op => "integer overflow in " ++ op.title
  | .notFinite x => String.ofList (Decimal.floatText x) ++ " is not a finite number"
  | .noOrder left right => "cannot compare " ++ left.text ++ " with " ++ right.text

namespace Expr

/-- A float as a value, if it is finite. -/
def finite (x : Float) : Except Fault Value :=
  if x.isFinite then .ok (.number (.float x)) else .error (.notFinite x)

/-- A whole number as a value, if it is a signed word. -/
def signed (fault : Fault) (n : Int) : Except Fault Value :=
  if minWhole ≤ n ∧ n ≤ maxSigned then .ok (Value.ofInt n) else .error fault

/-- Arithmetic on signed words.  Division cuts off toward zero, and the remainder has the
sign of `m`; it fails together with the quotient. -/
def wholeArithmetic (op : BinaryOp) (m n : Int) : Except Fault Value :=
  match op with
  | .add => signed (.overflow op) (m + n)
  | .sub => signed (.overflow op) (m - n)
  | .mul => signed (.overflow op) (m * n)
  | .div =>
    if n = 0 then .error .divisionByZero else signed (.overflow op) (m.tdiv n)
  | _ =>
    if n = 0 then .error .divisionByZero
    else do
      let _ ← signed (.overflow op) (m.tdiv n)
      signed (.overflow op) (m.tmod n)

def floatArithmetic (op : BinaryOp) (x y : Float) : Float :=
  match op with
  | .add => x + y
  | .sub => x - y
  | .mul => x * y
  | .div => x / y
  | _ => Binary.remainder x y

def arithmetic (op : BinaryOp) (left right : Value) : Except Fault Value :=
  match left, right with
  | .number a, .number b =>
    match a.signed?, b.signed? with
    | some m, some n => wholeArithmetic op m n
    | _, _ => finite (floatArithmetic op a.toFloat b.toFloat)
  | _, _ => .error (.noArithmetic left op right)

/-- Addition joins the texts of its operands when one of them is a string. -/
def plus (left right : Value) : Except Fault Value :=
  match left, right with
  | .string _, _ => .ok (.string (left.toText ++ right.toText))
  | _, .string _ => .ok (.string (left.toText ++ right.toText))
  | _, _ => arithmetic .add left right

/-- Whether two values are ordered in one of the accepted ways. -/
def ordered (accepted : Ordering → Bool) (left right : Value) : Except Fault Value :=
  match left.order? right with
  | some o => .ok (.bool (accepted o))
  | none => .error (.noOrder left right)

def apply (op : BinaryOp) (left right : Value) : Except Fault Value :=
  match op with
  | .or => .ok (.bool (left.isTruthy || right.isTruthy))
  | .and => .ok (.bool (left.isTruthy && right.isTruthy))
  | .eq => .ok (.bool (left.looseEq right))
  | .ne => .ok (.bool (!left.looseEq right))
  | .lt => ordered (· == .lt) left right
  | .le => ordered (· != .gt) left right
  | .gt => ordered (· == .gt) left right
  | .ge => ordered (· != .lt) left right
  | .add => plus left right
  | op => arithmetic op left right

def opposite (v : Value) : Except Fault Value :=
  match v with
  | .number n =>
    match n.signed? with
    | some m => signed (.noNegation v) (-m)
    | none => finite (-n.toFloat)
  | _ => .error (.noNegation v)

def memberOf (base : Value) (name : String) : Except Fault Value :=
  match base with
  | .null => .ok .null
  | .object members => .ok ((Members.get? members name).getD .null)
  | _ => .error (.noMember base name)

/-- The item of a list at a position, or the member of an object under the text of a key. -/
def itemOf (base key : Value) : Except Fault Value :=
  match base, key with
  | .null, _ => .ok .null
  | .array items, .number n =>
    match n.natural? with
    | some i => .ok (items[i]?.getD .null)
    | none => .error (.badPosition n)
  | .object members, _ => .ok ((Members.get? members key.toText).getD .null)
  | _, _ => .error (.noIndex base key)

def rewritten (f : List Char → List Char) (s : String) : Value :=
  .string (String.ofList (f s.toList))

def callOn (base : Value) (method : Method) : Except Fault Value :=
  match method, base with
  | .size, .array items => .ok (Value.ofNat items.length)
  | .size, .object members => .ok (Value.ofNat members.length)
  | .size, .string s => .ok (Value.ofNat s.length)
  | .isEmpty, .array items => .ok (.bool items.isEmpty)
  | .isEmpty, .object members => .ok (.bool members.isEmpty)
  | .isEmpty, .string s => .ok (.bool s.isEmpty)
  | .trim, .string s => .ok (rewritten Text.trim s)
  | .toUpperCase, .string s => .ok (rewritten Text.uppercase s)
  | .toLowerCase, .string s => .ok (rewritten Text.lowercase s)
  | _, _ => .error (.noMethod base method)

/-- The value of an expression.  The right operand of `or` and `and` is computed only when
the left one leaves the answer open. -/
def eval (lookup : String → Option Value) : Expr → Except Fault Value
  | .literal v => .ok v
  | .variable name => .ok ((lookup name).getD .null)
  | .member base name => do memberOf (← eval lookup base) name
  | .index base key => do
    let b ← eval lookup base
    let k ← eval lookup key
    itemOf b k
  | .call base method => do callOn (← eval lookup base) method
  | .not operand => do return .bool (!(← eval lookup operand).isTruthy)
  | .negate operand => do opposite (← eval lookup operand)
  | .binary .or left right => do
    let l ← eval lookup left
    if l.isTruthy then return .bool true
    else return .bool (← eval lookup right).isTruthy
  | .binary .and left right => do
    let l ← eval lookup left
    if l.isTruthy then return .bool (← eval lookup right).isTruthy
    else return .bool false
  | .binary op left right => do
    let l ← eval lookup left
    let r ← eval lookup right
    apply op l r

/-- Every other operator computes both of its operands. -/
theorem eval_binary {lookup : String → Option Value} {op : BinaryOp} {left right : Expr}
    (hor : op ≠ .or) (hand : op ≠ .and) : eval lookup (.binary op left right) = (do
      let l ← eval lookup left
      let r ← eval lookup right
      apply op l r) := by
  cases op
  case or => exact absurd rfl hor
  case and => exact absurd rfl hand
  all_goals rfl

end Expr

end QueryTemplate
