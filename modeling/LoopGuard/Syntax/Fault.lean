import LoopGuard.Text.Quoted

/-!
# Faults

What can be wrong with a source text, and how it is said: the errors of `swc_ecma_parser` that a
text without types and markup can lead to, with the messages a parse error of the program repeats.
Some messages show tokens as the parser's debug forms have them, so those are kept too.
-/

namespace LoopGuard

/-- A reason to refuse a source text, with what its message shows. -/
inductive Fault where
  | unexpectedEnd
  | unexpectedCharacter (shown : String)
  | unterminatedComment
  | unterminatedString
  | unterminatedTemplate
  | unterminatedRegex
  | unknownRegexFlags
  | duplicatedRegexFlag (flag : Char)
  | invalidStringEscape
  | badEscape (wanted : String)
  | invalidUnicodeEscape
  | expectedUnicodeEscape
  | invalidNameCharacter
  | escapedReservedWord (word : String)
  | expectedDigit (radix : Nat)
  | expectedExponentDigit
  | misplacedSeparator
  | nameAfterNumber
  | legacyOctal
  | legacyDecimal
  | legacyComment
  | conflictMarker
  | expected (wanted got : String)
  | unexpected (got wanted : String)
  | expectedName
  | expectedExpression
  | expectedSemicolon
  | expectedStatementEnd
  | trailingComma
  | reservedInStrict (word : String)
  | awaitAsName
  | awaitStar
  | awaitOutsideAsync
  | awaitInParameters
  | awaitWithoutOf
  | yieldInParameters
  | coverDefault
  | argumentsInField
  | evalOrArgumentsBinding
  | useStrictWithPatterns
  | exponentOfUnary
  | mixedCoalescing
  | lineBreakAfterThrow
  | lineBreakBeforeArrow
  | misplacedArrow
  | emptyParens
  | spreadInParens
  | notAPattern
  | notAssignable
  | invalidAssignmentTarget
  | invalidTarget
  | commaAfterRest
  | restNotLast
  | restParameterNotLast
  | restWithDefault
  | restWithoutName
  | getterParameters
  | setterParameters
  | restInSetter
  | patternWithoutValue
  | constantWithoutValue
  | tooManyLoopVariables
  | loopVariableWithValue
  | asyncBeforeOf
  | usingDisabled
  | declarationNotAllowed
  | multipleDefaults
  | duplicateLabel (name : String)
  | labeledGeneratorOrAsync
  | labeledFunctionInStrict
  | breakOutside
  | breakTarget
  | continueTarget
  | jumpAcrossFunction
  | returnOutside
  | withInStrict
  | deleteOfName
  | importExportOutsideModule
  | misplacedImport
  | importTrailingComma
  | importBindingString (value : String)
  | exportBindingString
  | exportNeedsFrom (name : String)
  | newTargetOutside
  | superOutside
  | superCall
  | optionalSuperOrImport
  | chainInConstructor
  | chainInTag
  | spaceAfterNumberSign
  | privateConstructor
  | fieldNamedConstructor
  | duplicateConstructor
  | accessorConstructor
  | asyncConstructor
  | generatorConstructor
  | staticConstructor
  | duplicateExtends
  | optionalMember
  deriving Repr, DecidableEq, Inhabited

namespace Fault

/-- The name of a number base, with its article. -/
def radixName : Nat → String
  | 2 => "a binary"
  | 8 => "an octal"
  | 16 => "a hexadecimal"
  | _ => "a decimal"

/-- The wording of a fault, as a parse error of the program ends with it. -/
def message : Fault → String
  | unexpectedEnd => "Unexpected eof"
  | unexpectedCharacter shown => "Unexpected character " ++ shown
  | unterminatedComment => "Unterminated block comment"
  | unterminatedString => "Unterminated string constant"
  | unterminatedTemplate => "Unterminated template"
  | unterminatedRegex => "Unterminated regexp literal"
  | unknownRegexFlags => "Unknown regular expression flags."
  | duplicatedRegexFlag flag => "Duplicated regular expression flag '" ++ flag.toString ++ "'."
  | invalidStringEscape => "Invalid string escape"
  | badEscape wanted => "Bad character escape sequence, expected " ++ wanted
  | invalidUnicodeEscape => "Invalid unicode escape"
  | expectedUnicodeEscape => "Expected unicode escape"
  | invalidNameCharacter => "Invalid character in identifier"
  | escapedReservedWord word => "Unexpected escape sequence in reserved word: " ++ word
  | expectedDigit radix => "Expected " ++ radixName radix ++ " digit"
  | expectedExponentDigit => "Expected +, - or decimal digit after e"
  | misplacedSeparator => "A numeric separator is only allowed between two digits"
  | nameAfterNumber => "Identifier cannot follow number"
  | legacyOctal => "Legacy octal escape is not permitted in strict mode"
  | legacyDecimal => "Legacy decimal escape is not permitted in strict mode"
  | legacyComment => "Legacy comments cannot be used in module code"
  | conflictMarker => "Merge conflict marker encountered."
  | expected wanted got => "Expected '" ++ wanted ++ "', got '" ++ got ++ "'"
  | unexpected got wanted => "Unexpected token `" ++ got ++ "`. Expected " ++ wanted
  | expectedName => "Expected ident"
  | expectedExpression => "Expression expected"
  | expectedSemicolon => "Expected a semicolon"
  | expectedStatementEnd => "Expected ';', '\x7d' or <eof>"
  | trailingComma => "Trailing comma is not allowed"
  | reservedInStrict word => "`" ++ word ++ "` cannot be used as an identifier in strict mode"
  | awaitAsName => "`await` cannot be used as an identifier in an async context"
  | awaitStar =>
    "await* has been removed from the async functions proposal. Use Promise.all() instead."
  | awaitOutsideAsync => "await isn't allowed in non-async function"
  | awaitInParameters => "`await` expressions cannot be used in a parameter initializer."
  | awaitWithoutOf => "for await syntax is valid only for for-of statement"
  | yieldInParameters => "'yield' cannot be used as a parameter within generator"
  | coverDefault => "assignment property is invalid syntax"
  | argumentsInField => "'arguments' is only allowed in functions and class methods"
  | evalOrArgumentsBinding =>
    "'eval' and 'arguments' cannot be used as a binding identifier in strict mode"
  | useStrictWithPatterns =>
    "Illegal 'use strict' directive in function with non-simple parameter list."
  | exponentOfUnary => "'**' cannot be applied to unary/await expression."
  | mixedCoalescing =>
    "Nullish coalescing operator(??) requires parens when mixing with logical operators"
  | lineBreakAfterThrow => "LineBreak cannot follow 'throw'"
  | lineBreakBeforeArrow => "Unexpected line break between arrow head and arrow"
  | misplacedArrow => "An arrow function is not allowed here"
  | emptyParens => "Parenthesized expression cannot be empty"
  | spreadInParens => "Parenthesized expression cannot contain spread operator"
  | notAPattern => "Not a pattern"
  | notAssignable => "Cannot assign to this"
  | invalidAssignmentTarget => "Invalid assignment target"
  | invalidTarget =>
    "The left-hand side of an assignment expression must be a variable or a property access."
  | commaAfterRest => "Trailing comma isn't permitted after a rest element"
  | restNotLast => "Rest element must be final element"
  | restParameterNotLast => "A rest parameter must be last in a parameter list"
  | restWithDefault => "A rest parameter cannot have an initializer"
  | restWithoutName => "`...` must be followed by an identifier in declaration contexts"
  | getterParameters => "A `get` accessor cannot have parameters"
  | setterParameters => "A `set` accessor must have exactly one parameter"
  | restInSetter => "Rest pattern is not allowed in setter"
  | patternWithoutValue => "Destructuring bindings require initializers"
  | constantWithoutValue => "'const' declarations must be initialized"
  | tooManyLoopVariables => "Expected one variable binding"
  | loopVariableWithValue => "Unexpected initializer in for in/of loop"
  | asyncBeforeOf => "The left-hand side of a `for...of` statement may not be `async`"
  | usingDisabled =>
    "Using declaration is not enabled. Set jsc.parser.explicitResourceManagement to true"
  | declarationNotAllowed => "Declaration is not allowed"
  | multipleDefaults => "A switch block cannot have multiple defaults"
  | duplicateLabel name => "Label " ++ name ++ " is already declared"
  | labeledGeneratorOrAsync => "Generator or async function cannot be labelled"
  | labeledFunctionInStrict => "Function cannot be labelled in strict mode"
  | breakOutside =>
    "A 'break' statement can only be used within an enclosing iteration or switch statement"
  | breakTarget => "A 'break' statement can only jump to a label of an enclosing statement"
  | continueTarget =>
    "A 'continue' statement can only jump to a label of an enclosing iteration statement"
  | jumpAcrossFunction => "Jump target cannot cross function boundary"
  | returnOutside => "Return statement is not allowed here"
  | withInStrict => "With statement are not allowed in strict mode"
  | deleteOfName => "'delete' cannot be called on an identifier in strict mode"
  | importExportOutsideModule => "'import', and 'export' cannot be used outside of module code"
  | misplacedImport => "Import is not allowed here"
  | importTrailingComma => "Trailing comma is disallowed inside import(...) arguments"
  | importBindingString value =>
    "A string literal cannot be used as an imported binding.\n- Did you mean `import \x7b \""
      ++ value ++ "\" as foo \x7d`?"
  | exportBindingString =>
    "A string literal cannot be used as an exported binding without `from`."
  | exportNeedsFrom name => "`" ++ name ++ "` cannot be used without `from` clause"
  | newTargetOutside =>
    "'new.target' is only allowed in the body of a function declaration, function expression, "
      ++ "or class."
  | superOutside => "Invalid access to super"
  | superCall => "Invalid `super()`"
  | optionalSuperOrImport => "Super call cannot be optional"
  | chainInConstructor => "Constructor in/after an optional chaining is not allowed."
  | chainInTag => "Tagged template literal is not allowed in optional chain."
  | spaceAfterNumberSign => "Unexpected space between # and identifier"
  | privateConstructor => "Classes can't have a private field named '#constructor'."
  | fieldNamedConstructor => "Classes may not have a non-static field named 'constructor'"
  | duplicateConstructor => "A class can only have one constructor"
  | accessorConstructor => "Class constructor can't be an accessor."
  | asyncConstructor => "Constructor can't be an async function"
  | generatorConstructor => "A constructor cannot be generator"
  | staticConstructor => "'static' modifier cannot appear on a constructor declaration"
  | duplicateExtends => "`extends` clause already seen."
  | optionalMember => "An object member cannot be declared optional"

/-- How a fault is shown inside what a message shows of a token that could not be read. -/
def inspected : Fault → String
  | unexpectedCharacter shown => "UnexpectedChar \x7b c: " ++ shown ++ " \x7d"
  | expectedDigit radix => "ExpectedDigit \x7b radix: " ++ Nat.repr radix ++ " \x7d"
  | expectedExponentDigit => "NumLitTerminatedWithExp"
  | nameAfterNumber => "IdentAfterNum"
  | badEscape wanted =>
    "BadCharacterEscapeSequence \x7b expected: " ++ Quoted.quoted wanted ++ " \x7d"
  | escapedReservedWord word =>
    "EscapeInReservedWord \x7b word: " ++ Quoted.quoted word ++ " \x7d"
  | invalidStringEscape => "InvalidStrEscape"
  | invalidUnicodeEscape => "InvalidUnicodeEscape"
  | expectedUnicodeEscape => "ExpectedUnicodeEscape"
  | unterminatedTemplate => "UnterminatedTpl"
  | unterminatedRegex => "UnterminatedRegExp"
  | conflictMarker => "TS1185"
  | f => f.message

/-- Whether the fault is one of a single place, and not of a stretch of text. A token with such a
flaw ends there. -/
def isPoint : Fault → Bool
  | unexpectedCharacter _ | nameAfterNumber | expectedUnicodeEscape | invalidStringEscape => true
  | _ => false

end Fault

/-- A fault and the offset it is reported at. -/
structure Diagnostic where
  offset : Nat
  fault : Fault
  deriving Repr, DecidableEq, Inhabited

end LoopGuard
