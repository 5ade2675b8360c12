import QueryTemplate.Template

/-!
# Running statements

A command is the text of a statement with its arguments, ready to be sent.  The
database answers with a row of replies: rows, and for each part that has run the
number of rows it touched.  The functions in `Replies` read such an answer; each
stops at the first fault.
-/

namespace QueryTemplate

/-- The single cell of a row. -/
inductive Cell
  | bigint (n : Int)
  | text (s : String)
deriving DecidableEq, Repr

/-- One part of an answer. -/
inductive Reply
  | row (cell : Cell)
  | done (affected : Nat)
deriving DecidableEq, Repr

/-- A text to be sent with its arguments; one that was written by hand has none. -/
structure Command where
  sql : String
  arguments : Option (List Argument)
  markerCount : Nat := 0
  persistent : Bool := true

namespace Command

/-- A text written by hand, whose marks are not counted. -/
def raw (sql : String) : Command :=
  { sql, arguments := none }

def ofStatement (s : Statement) (arguments : List Argument) : Command :=
  { sql := s.sql, arguments := some arguments, markerCount := s.mappings.length }

def ofTemplate (t : Template) (parameter : Value) : Except Error Command := do
  let s ← t.statement parameter
  let arguments ← s.arguments t.configuration.evaluator parameter
  return ofStatement s arguments

/-- The command with its arguments filled in: none count as an empty list. -/
def withArguments (c : Command) : Command :=
  { c with arguments := some (c.arguments.getD []) }

end Command

/-- An answer of a database, part by part. -/
abbrev Replies := List (Except DatabaseFault Reply)

namespace Replies

/-- The answer of rows and a final count, cut short by a fault after some parts. -/
def script (rows : List Cell) (affected : Nat) (failAfter : Option Nat) (fault : DatabaseFault) :
    Replies :=
  let parts : Replies := rows.map (fun cell => .ok (.row cell)) ++ [.ok (.done affected)]
  match failAfter with
  | some n => parts.take n ++ [.error fault]
  | none => parts

def word : Cell → Except DatabaseFault Int
  | .bigint n => .ok n
  | .text _ => .error (.decode "mismatched types")

def affected : Replies → Except DatabaseFault Nat
  | [] => .ok 0
  | .error fault :: _ => .error fault
  | .ok (.row _) :: rest => affected rest
  | .ok (.done n) :: rest => do return n + (← affected rest)

def cells : Replies → Except DatabaseFault (List Cell)
  | [] => .ok []
  | .error fault :: _ => .error fault
  | .ok (.done _) :: rest => cells rest
  | .ok (.row cell) :: rest => do return cell :: (← cells rest)

/-- The cells of all rows, each read in some way as it comes. -/
def read {α : Type} (reading : Cell → Except DatabaseFault α) :
    Replies → Except DatabaseFault (List α)
  | [] => .ok []
  | .error fault :: _ => .error fault
  | .ok (.done _) :: rest => read reading rest
  | .ok (.row cell) :: rest => do
    let a ← reading cell
    return a :: (← read reading rest)

/-- The cell of the first row, if there is one before a fault. -/
def first? : Replies → Except DatabaseFault (Option Cell)
  | [] => .ok none
  | .error fault :: _ => .error fault
  | .ok (.done _) :: rest => first? rest
  | .ok (.row cell) :: _ => .ok (some cell)

/-- The cell of the first row, which must be there. -/
def first (replies : Replies) : Except DatabaseFault Cell := do
  match ← first? replies with
  | some cell => return cell
  | none => .error .rowNotFound

/-- The first row read in some way, if there is one. -/
def readFirst? {α : Type} (reading : Cell → Except DatabaseFault α) (replies : Replies) :
    Except DatabaseFault (Option α) := do
  match ← first? replies with
  | some cell => return some (← reading cell)
  | none => return none

/-- The first row, which must be there, read in some way. -/
def readFirst {α : Type} (reading : Cell → Except DatabaseFault α) (replies : Replies) :
    Except DatabaseFault α := do
  match ← readFirst? reading replies with
  | some a => return a
  | none => .error .rowNotFound

/-- Collecting cells is reading each as itself. -/
theorem read_ok (replies : Replies) : read .ok replies = cells replies := by
  induction replies with
  | nil => rfl
  | cons reply rest ih =>
    match reply with
    | .error _ => rfl
    | .ok (.done _) => exact ih
    | .ok (.row cell) => simp only [read, cells, ih]; rfl

end Replies

end QueryTemplate
