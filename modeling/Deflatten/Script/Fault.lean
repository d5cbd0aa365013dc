import Deflatten.Number.Basic
/-!
# What can be wrong with a script

`Fault.Cause` lists the reasons for which a script is refused, and `Fault.message` words them. A fault names the line
that it is reported on.
-/

namespace Deflatten.Script

namespace Fault

/-- The reasons for which a script is refused. -/
inductive Cause where
  | unexpectedEnd
  | unexpectedName
  | unexpectedNumber
  | unexpectedString
  | unexpectedTemplate (raw : String)
  | unexpectedReserved
  | unexpected (text : String)
  | misplaced
  | illegal
  | emptySubstitution
  | strictReserved
  | escapedKeyword
  | invalidHexEscape
  | templateOctal
  | unterminatedRegex
  | invalidRegex
  | invalidAssignment
  | invalidForIn
  | invalidForLoop
  | loopInitializer (kind : String)
  | missingInitializer (kind : String)
  | illegalReturn
  | illegalBreak
  | illegalContinue
  | unknownLabel (label : String)
  | repeatedLabel (label : String)
  | repeatedBinding (name : String)
  | missingHandler
  | repeatedDefault
  | newlineAfterThrow
  | parameterAfterRest
  | getterArity
  | setterArity
  | setterRest
  | repeatedProto
  | repeatedConstructor
  | specialConstructor
  | asyncConstructor
  | staticPrototype
  | lexicalLet
  | legacyGenerator
  | illegalDirective
  | strictWith
  | strictDelete
  | strictOctal
  | strictAssignment
  | strictPrefixUpdate
  | strictPostfixUpdate
  | strictVariable
  | strictCatch
  | strictFunctionName
  | strictParameterName
  | strictRepeatedParameter
  | strictFunctionPlace
  | tooDeep
  | longInteger
  deriving DecidableEq, Repr

/-- The wording of a reason. -/
def Cause.wording : Cause → String
  | .unexpectedEnd => "Unexpected end of input"
  | .unexpectedName => "Unexpected identifier"
  | .unexpectedNumber => "Unexpected number"
  | .unexpectedString => "Unexpected string"
  | .unexpectedTemplate raw => "Unexpected quasi " ++ raw
  | .unexpectedReserved => "Unexpected reserved word"
  | .unexpected text => "Unexpected token " ++ text
  | .misplaced => "Unexpected token"
  | .illegal => "Unexpected token ILLEGAL"
  | .emptySubstitution => "Template literal must start with a template head"
  | .strictReserved => "Use of future reserved word in strict mode"
  | .escapedKeyword => "Keyword must not contain escaped characters"
  | .invalidHexEscape => "Invalid hexadecimal escape sequence"
  | .templateOctal => "Octal literals are not allowed in template strings."
  | .unterminatedRegex => "Invalid regular expression: missing /"
  | .invalidRegex => "Invalid regular expression"
  | .invalidAssignment => "Invalid left-hand side in assignment"
  | .invalidForIn => "Invalid left-hand side in for-in"
  | .invalidForLoop => "Invalid left-hand side in for-loop"
  | .loopInitializer kind => kind ++ " loop variable declaration may not have an initializer"
  | .missingInitializer kind => "Missing initializer in " ++ kind ++ " declaration"
  | .illegalReturn => "Illegal return statement"
  | .illegalBreak => "Illegal break statement"
  | .illegalContinue => "Illegal continue statement"
  | .unknownLabel label => "Undefined label '" ++ label ++ "'"
  | .repeatedLabel label => "Label '" ++ label ++ "' has already been declared"
  | .repeatedBinding name => "Duplicate binding " ++ name
  | .missingHandler => "Missing catch or finally after try"
  | .repeatedDefault => "More than one default clause in switch statement"
  | .newlineAfterThrow => "Illegal newline after throw"
  | .parameterAfterRest => "Rest parameter must be last formal parameter"
  | .getterArity => "Getter must not have any formal parameters"
  | .setterArity => "Setter must have exactly one formal parameter"
  | .setterRest => "Setter function argument must not be a rest parameter"
  | .repeatedProto => "Duplicate __proto__ fields are not allowed in object literals"
  | .repeatedConstructor => "A class may only have one constructor"
  | .specialConstructor => "Class constructor may not be an accessor"
  | .asyncConstructor => "Class constructor may not be an async method"
  | .staticPrototype => "Classes may not have static property named prototype"
  | .lexicalLet => "let is disallowed as a lexically bound name"
  | .legacyGenerator => "Generator declarations are not allowed in legacy contexts"
  | .illegalDirective => "Illegal 'use strict' directive in function with non-simple parameter list"
  | .strictWith => "Strict mode code may not include a with statement"
  | .strictDelete => "Delete of an unqualified identifier in strict mode."
  | .strictOctal => "Octal literals are not allowed in strict mode."
  | .strictAssignment => "Assignment to eval or arguments is not allowed in strict mode"
  | .strictPrefixUpdate => "Prefix increment/decrement may not have eval or arguments operand in strict mode"
  | .strictPostfixUpdate => "Postfix increment/decrement may not have eval or arguments operand in strict mode"
  | .strictVariable => "Variable name may not be eval or arguments in strict mode"
  | .strictCatch => "Catch variable may not be eval or arguments in strict mode"
  | .strictFunctionName => "Function name may not be eval or arguments in strict mode"
  | .strictParameterName => "Parameter name eval or arguments is not allowed in strict mode"
  | .strictRepeatedParameter => "Strict mode function may not have duplicate parameter names"
  | .strictFunctionPlace =>
    "In strict mode code, functions can only be declared at top level or inside a block"
  | .tooDeep => "maximum nesting depth exceeded"
  | .longInteger => Number.writingFault

/-- Whether the line of a reason is told with it. -/
def Cause.hasLine : Cause → Bool
  | .emptySubstitution | .longInteger => false
  | _ => true

end Fault

/-- A reason to refuse a script, and the line it is reported on. -/
structure Fault where
  line : Nat
  cause : Fault.Cause
  deriving DecidableEq, Repr

/-- The message of a fault. -/
def Fault.message (f : Fault) : String :=
  if f.cause.hasLine then "Line " ++ toString f.line ++ ": " ++ f.cause.wording else f.cause.wording

end Deflatten.Script
