import Deflatten.Tree.Basic
/-!
# Why a tree cannot be printed

A tree that was built by hand may lack a part that its text needs, or hold a value that no script can express.
-/

namespace Deflatten.Script.Printer

/-- The reasons for which a tree is not printed. -/
inductive Refusal where
  | unsupportedRoot (tag : String)
  | unsupportedStatement (tag : String)
  | unsupportedExpression (tag : String)
  | untyped
  | notNode (tag field : String)
  | notList (tag field : String)
  | isEmpty (tag field : String)
  | noField (sort field : String)
  | noLength (sort : String)
  | noItems (sort : String)
  | noSuchItem (sort : String)
  | notJoinedAfter (sort : String)
  | notJoinedBefore (sort : String)
  | unknownKind (kind : Scalar)
  | resourceDeclaration
  | unknownOperator (operator : Scalar)
  | invalidName
  | noValue
  | bigInteger
  | unknownNumber
  | numberTooLarge
  | numberNan
  | regexFlags
  | regexPattern
  | tooDeep
  deriving DecidableEq, Repr

/-- The wording of a reason. -/
def Refusal.wording : Refusal → String
  | .unsupportedRoot tag => "Unsupported ESTree node type: " ++ tag
  | .unsupportedStatement tag => "Unsupported ESTree statement type: " ++ tag
  | .unsupportedExpression tag => "Unsupported ESTree expression type: " ++ tag
  | .untyped => "Expected an ESTree node with a string type field"
  | .notNode tag field => tag ++ "." ++ field ++ " must contain an ESTree node"
  | .notList tag field => tag ++ "." ++ field ++ " must be a list"
  | .isEmpty tag field => tag ++ "." ++ field ++ " cannot be empty"
  | .noField sort field => "'" ++ sort ++ "' object has no attribute '" ++ field ++ "'"
  | .noLength sort => "object of type '" ++ sort ++ "' has no len()"
  | .noItems sort => "'" ++ sort ++ "' object is not subscriptable"
  | .noSuchItem sort => (if sort == "str" then "string" else sort) ++ " index out of range"
  | .notJoinedAfter sort => "can only concatenate str (not \"" ++ sort ++ "\") to str"
  | .notJoinedBefore sort =>
    if sort == "list" then "can only concatenate list (not \"str\") to list"
    else "unsupported operand type(s) for +: '" ++ sort ++ "' and 'str'"
  | .unknownKind kind => "Unsupported VariableDeclaration.kind: " ++ kind.shown
  | .resourceDeclaration => "Resource declarations require extensions.resourceManagement"
  | .unknownOperator operator => "Unsupported binary operator: " ++ operator.shown
  | .invalidName => "Identifier.name must be a valid ECMAScript IdentifierName"
  | .noValue => "Literal.value is required; use an explicit None for null"
  | .bigInteger => "Literal.bigint must contain canonical nonnegative decimal digits"
  | .unknownNumber => "Literal.number must be Infinity, -Infinity or NaN"
  | .numberTooLarge => "Number literal exceeds binary64; use Literal.bigint for exact integers"
  | .numberNan => "Number literal cannot be NaN"
  | .regexFlags => "Invalid ECMAScript regular-expression flags"
  | .regexPattern => "Regular-expression pattern must be JavaScript source text"
  | .tooDeep => "maximum nesting depth exceeded"

/-- Text, or the reason why there is none. -/
abbrev Printing := Except Refusal

end Deflatten.Script.Printer
