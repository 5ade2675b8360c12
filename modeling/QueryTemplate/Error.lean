import QueryTemplate.Evaluator
import QueryTemplate.Text.Quoted

/-!
# Errors

Everything that can go wrong between a template and its statement, by cause, with
the wording of each in `Error.message`.
-/

namespace QueryTemplate

/-- What is wrong with the text of a placeholder. -/
inductive PlaceholderFault
  | unbalanced
  | trailing
  | noProperty
deriving DecidableEq, Repr

def PlaceholderFault.message : PlaceholderFault → String
  | .unbalanced => "unbalanced parentheses in expression"
  | .trailing => "expected ',' or ':'"
  | .noProperty => "property name is empty"

/-- What a database answers instead of a row. -/
inductive DatabaseFault
  | rowNotFound
  | protocol (text : String)
  | decode (text : String)
deriving DecidableEq, Repr

def DatabaseFault.message : DatabaseFault → String
  | .rowNotFound => "no rows returned by a query that expected to return at least one row"
  | .protocol text => "encountered unexpected or invalid data: " ++ text
  | .decode text => "error occurred while decoding: " ++ text

inductive Error
  | database (fault : DatabaseFault)
  | expression (error : ExprError)
  | unknownAttribute (name : String) (content : String)
  | badPlaceholder (content : String) (position : Nat) (fault : PlaceholderFault)
  | badAttribute (name : String) (value : String) (content : String)
  | multipleDefaults
  | badChoice (kind : String)
  | blankOverride (text : String)
  | collectionRequired (expression : String)
  | notIterable (expression : String) (found : Value)
  | rejected (value : String) (pattern : String)
  | badFilter (pattern : String)
  | serialization (message : String)
  | message (text : String)

namespace Error

def placeholderText (content : String) : String :=
  "#\x7b" ++ content ++ "\x7d"

/-- The wording of an error. -/
def text : Error → String
  | .database fault => "data base error: " ++ fault.message
  | .expression error => "expression error: " ++ error.message
  | .unknownAttribute name content =>
    "an invalid property '" ++ name ++ "' was found in mapping " ++ placeholderText content ++
      ", valid properties are javaType,jdbcType,mode,numericScale,resultMap,jdbcTypeName,expression"
  | .badPlaceholder content position fault =>
    "parsing error in " ++ placeholderText content ++ " in position " ++
      Decimal.natText position ++ ": " ++ fault.message
  | .badAttribute name value content =>
    "invalid value '" ++ value ++ "' for '" ++ name ++ "' in mapping " ++ placeholderText content
  | .multipleDefaults => "too many default (otherwise) elements in choose statement"
  | .badChoice kind => "choose accepts only condition and default children, found " ++ kind
  | .blankOverride override =>
    "invalid trim declaration: override " ++ Text.quoted override ++
      " is empty after trimming whitespace"
  | .collectionRequired collection => (ExprError.nullValue collection).message
  | .notIterable collection found => (ExprError.notIterable collection found).message
  | .rejected value pattern =>
    "invalid input '" ++ value ++ "', please conform to regex " ++ pattern
  | .badFilter pattern => "invalid injection filter: " ++ pattern
  | .serialization reason => "parameter serialization error: " ++ reason
  | .message text => "dynamic template error: " ++ text

/-- The error for a collection that a loop cannot run over. -/
def ofCollection : ExprError → Error
  | .nullValue collection => .collectionRequired collection
  | .notIterable collection found => .notIterable collection found
  | error => .expression error

end Error

end QueryTemplate
