import QueryTemplate.Mapping.Placeholder
import QueryTemplate.Proofs.Grammar.Basic
import QueryTemplate.Proofs.Text

/-!
# How placeholders are written

`Mapping.Renders m text` says that the text of a placeholder writes the mapping `m`: its
head, a type tag or not, and attributes in any order, where gaps may stand around each part,
type tags and modes may be written in any case, and every attribute says what the mapping has
(`Mapping.Tells`).  What no attribute says, the mapping lacks (`Mapping.Lacks`).

Not every mapping can be written: `Mapping.IsPlain` says which ones can.  `Mapping.text` is
one way to do it.
-/

namespace QueryTemplate

open Text (IsGaps isTrimmed InAnyCase)

namespace Placeholder

/-! ### The parts of a placeholder -/

inductive Attribute
  | javaType
  | jdbcType
  | mode
  | numericScale
  | resultMap
  | jdbcTypeName
  | expression
deriving DecidableEq, Repr

namespace Attribute

def name : Attribute → String
  | .javaType => "javaType"
  | .jdbcType => "jdbcType"
  | .mode => "mode"
  | .numericScale => "numericScale"
  | .resultMap => "resultMap"
  | .jdbcTypeName => "jdbcTypeName"
  | .expression => "expression"

def all : List Attribute :=
  [.javaType, .jdbcType, .mode, .numericScale, .resultMap, .jdbcTypeName, .expression]

theorem mem_all (a : Attribute) : a ∈ all := by
  cases a <;> decide

end Attribute

/-- In the text every parenthesis has its partner. -/
inductive Balanced : List Char → Prop
  | nil : Balanced []
  | other {c s} (hopen : c ≠ '(') (hclose : c ≠ ')') (h : Balanced s) : Balanced (c :: s)
  | parens {s t} (h : Balanced s) (ht : Balanced t) : Balanced ('(' :: (s ++ ')' :: t))

def isPath (s : List Char) : Bool :=
  !s.isEmpty && isTrimmed s && s.all (fun c => c != ',' && c != ':') && s.head? != some '('

def isValue (s : List Char) : Bool :=
  isTrimmed s && s.all (· != ',')

structure WrittenDigits (n : Nat) (s : List Char) : Prop where
  ne_nil : s ≠ []
  digit : ∀ c ∈ s, c.isDigit = true
  value : Decimal.valueOfDigits s = n

def WrittenNumber (n : Nat) (s : List Char) : Prop :=
  WrittenDigits n s ∨ ∃ digits, s = '+' :: digits ∧ WrittenDigits n digits

end Placeholder

open Placeholder

namespace Mapping

/-- The text is a value of the attribute that says what the mapping has. -/
def Tells (m : Mapping) : Attribute → List Char → Prop
  | .javaType, text => m.valueType = some (String.ofList text)
  | .jdbcType, text => ∃ t, m.jdbcType = some t ∧ InAnyCase t.name.toList text
  | .mode, text => InAnyCase m.mode.name.toList text
  | .numericScale, text =>
    ∃ n, m.numericScale = some n ∧ n < Nat.pow 2 32 ∧ WrittenNumber n text
  | .resultMap, text => m.resultMap = some (String.ofList text)
  | .jdbcTypeName, text => m.jdbcTypeName = some (String.ofList text)
  | .expression, text => m.expression = some (String.ofList text)

/-- The mapping has what a mapping has without the attribute. -/
def Lacks (m : Mapping) : Attribute → Prop
  | .javaType => m.valueType = none
  | .jdbcType => m.jdbcType = none
  | .mode => m.mode = .input
  | .numericScale => m.numericScale = none
  | .resultMap => m.resultMap = none
  | .jdbcTypeName => m.jdbcTypeName = none
  | .expression => m.expression = none

/-- The text writes the head of the mapping, a property or an expression in parentheses.  The
list holds the attributes that the head settles. -/
inductive WrittenHead (m : Mapping) : List Attribute → List Char → Prop
  | property (h : isPath m.property.toList = true) : WrittenHead m [] m.property.toList
  | expression {text g g'} (hproperty : m.property = String.ofList text)
      (htells : m.Tells .expression text) (htrimmed : isTrimmed text = true)
      (hbalanced : Balanced text) (hg : IsGaps g) (hg' : IsGaps g') :
      WrittenHead m [.expression] ('(' :: (g ++ (text ++ (g' ++ [')']))))

inductive WrittenFront (m : Mapping) : List Attribute → List Char → Prop
  | untagged {settled head g g'} (hg : IsGaps g) (h : WrittenHead m settled head)
      (hg' : IsGaps g') : WrittenFront m settled (g ++ (head ++ g'))
  | tagged {settled head g g' i value i'} (hg : IsGaps g) (h : WrittenHead m settled head)
      (hg' : IsGaps g') (hi : IsGaps i) (hvalue : isValue value = true)
      (htells : m.Tells .jdbcType value) (hi' : IsGaps i') :
      WrittenFront m (.jdbcType :: settled) (g ++ (head ++ (g' ++ ':' :: (i ++ (value ++ i')))))

inductive WrittenAttributes (m : Mapping) : List Attribute → List Char → Prop
  | nil : WrittenAttributes m [] []
  | cons {a attributes g g' i value i' s} (hg : IsGaps g) (hg' : IsGaps g') (hi : IsGaps i)
      (hvalue : isValue value = true) (htells : m.Tells a value) (hi' : IsGaps i')
      (h : WrittenAttributes m attributes s) :
      WrittenAttributes m (a :: attributes)
        (',' :: (g ++ (a.name.toList ++ (g' ++ '=' :: (i ++ (value ++ (i' ++ s)))))))

/-- The text `before ++ after` writes the mapping, and between its two parts an attribute
could stand.  An attribute that is written twice says the same twice. -/
def RendersAround (m : Mapping) (before after : List Char) : Prop :=
  ∃ settled front attributes s attributes',
    WrittenFront m settled front ∧ WrittenAttributes m attributes s ∧
      WrittenAttributes m attributes' after ∧ before = front ++ s ∧
      (∀ a, a ∈ settled ++ (attributes ++ attributes') ∨ m.Lacks a) ∧ m.value = none

def Renders (m : Mapping) (text : String) : Prop :=
  m.RendersAround text.toList []

/-! ### Which mappings can be written -/

/-- The mapping can be written: its head is a property or a balanced expression, and what it
has besides can be the values of attributes. -/
structure IsPlain (m : Mapping) : Prop where
  head : (isPath m.property.toList = true ∧
      ∀ e, m.expression = some e → isValue e.toList = true) ∨
    (m.expression = some m.property ∧ isTrimmed m.property.toList = true ∧
      Balanced m.property.toList)
  valueType : ∀ t, m.valueType = some t → isValue t.toList = true
  resultMap : ∀ t, m.resultMap = some t → isValue t.toList = true
  jdbcTypeName : ∀ t, m.jdbcTypeName = some t → isValue t.toList = true
  numericScale : ∀ n, m.numericScale = some n → n < Nat.pow 2 32
  value : m.value = none

/-! ### Writing a mapping -/

def attribute? (m : Mapping) : Attribute → Option String
  | .javaType => m.valueType
  | .jdbcType => m.jdbcType.map JdbcType.name
  | .mode => if m.mode = .input then none else some m.mode.name
  | .numericScale => m.numericScale.map Decimal.natText
  | .resultMap => m.resultMap
  | .jdbcTypeName => m.jdbcTypeName
  | .expression => m.expression

def attributesText (m : Mapping) : List Attribute → List Char
  | [] => []
  | a :: rest =>
    match m.attribute? a with
    | some value =>
      ',' :: ' ' :: (a.name.toList ++ '=' :: (value.toList ++ attributesText m rest))
    | none => attributesText m rest

def text (m : Mapping) : String :=
  String.ofList (
    if isPath m.property.toList then m.property.toList ++ attributesText m Attribute.all
    else '(' :: (m.property.toList ++ ')' ::
      attributesText m (Attribute.all.filter (· != .expression))))

end Mapping

end QueryTemplate
