import Detype.Syntax.Span
import Detype.Text.Shown

/-
**Syntax faults.**

What can be wrong with a source text, and how it is told to the user. A fault says what is wrong, a
`FaultAt` also where.

* `Fault` — the causes.
* `Fault.message` — their wording, in one place.
-/

namespace Detype

/-- What is wrong with a piece of source text. -/
inductive Fault where
  -- characters, numbers and strings
  | unexpectedChar (c : Char)
  | invalidIdentChar
  | expectedUnicodeEscape
  | badEscape (wanted : String)
  | invalidStringEscape
  | invalidUnicodeEscape
  | mergeConflict
  | unterminatedBlockComment
  | unterminatedString
  | unterminatedRegex
  | unterminatedTemplate
  | identAfterNumber
  | expectedDigit (radix : Nat)
  | exponentWithoutDigits
  | separatorBetweenDigits
  | legacyOctal
  | legacyOctalLiteral
  | legacyDecimal
  | legacyCommentInModule
  | unknownRegexFlags
  | duplicatedRegexFlag (flag : Char)
  -- tokens
  | expected (wanted got : String)
  | unexpected (got wanted : String)
  | unexpectedEof
  | expectedIdent
  | identExpected
  | expectedSemicolonAfterExpr
  | semicolonExpected
  | expressionExpected
  | spaceAfterHash
  -- names
  | identInStrict (name : String)
  | awaitAsIdent
  | evalOrArgumentsInStrict
  | argumentsInStrict
  | argumentsInField
  | letReserved
  | yieldParam
  | awaitInParam
  | awaitInFunction
  | awaitStar
  | reservedImport
  | importBindingIsString (name : String)
  | exportBindingIsString
  | exportWithoutFrom (name : String)
  -- expressions
  | unaryBeforePower
  | nullishMix
  | assignToThis
  | invalidAssignTarget
  | invalidOperand
  | notAPattern
  | notAnExpression
  | defaultInObject
  | emptyParens
  | spreadInParens
  | optionalChainInNew
  | optionalChainTemplate
  | superMisplaced
  | superCallMisplaced
  | superCallOptional
  | superPrivateName
  | newTargetMisplaced
  | arrowAfterLineBreak
  | deleteIdent
  | commaInComputedKey
  | getterParams
  | setterParams
  | restInSetter
  | restNotLast
  | restParamNotLast
  | commaAfterRest
  | restWithoutName
  | trailingComma
  | typeAnnotationAfterDefault
  -- statements
  | throwLineBreak
  | breakOutside
  | breakUnknownLabel
  | continueOutside
  | jumpAcrossFunction
  | duplicateLabel (label : String)
  | labelledFunction
  | labelledAsync
  | returnOutside
  | declarationMisplaced
  | multipleDefaults
  | withInStrict
  | withUnsupported
  | forAwaitNotOf
  | forOfAsync
  | forHeadBindings
  | forHeadInit
  | forHeadTyped
  | forInPattern
  | emptyVarList
  | constWithoutInit
  | patternWithoutInit
  | usingWithoutInit
  | usingPattern
  | usingInForIn
  | importExportInScript
  | strictDirective
  -- functions and classes
  | asyncConstructor
  | generatorConstructor
  | accessorConstructor
  | duplicateConstructor
  | fieldNamedConstructor
  | privateConstructor
  | constructorTypeParams
  | constructorReturnType
  | className
  | extendsTwice
  | extendsAfterImplements
  | extendsMany
  | implementsTwice
  | decoratorsTwice
  | declareMember
  | declareAmbient
  | accessPrivate
  | modifierPrivate (modifier : String)
  | modifierConflict (first second : String)
  | modifierOrder (first second : String)
  | modifierRepeated (modifier : String)
  | modifierOnConstructor (modifier : String)
  | modifierMisplaced
  | modifierBeforeAccessor
  | abstractImplemented
  | abstractInitialized
  | abstractOutside
  | abstractMisplaced
  | overrideWithoutSuper
  | ambientImplementation
  | readonlyMethod
  | readonlyAccessor
  | paramProperty
  | paramInitializer
  | paramPropertyPattern
  | optionalWithDefault
  | optionalPattern
  | restOptional
  | restDefault
  | optionalMember
  -- types
  | requiredAfterOptional
  | emptyTypeArgs
  | emptyTypeParams
  | importTypeArgument
  | interfaceName
  | interfaceExtends
  | interfacePrivateName
  | indexParameters
  | enumNumericName
  | enumComputedName
  | typeModifierRepeated
  | typeModifierRepeatedExport
  | typeParamModifier (modifier : String)
  | typeParamVariance (modifier : String)
  | typeParamConst
  | nonNullTarget (target : String)
  -- JSX
  | jsxClosingTag (tag : String)
  | jsxEmptyAttr
  | jsxValue
  | jsxUnescaped (alternatives : String)
deriving Inhabited, Repr, DecidableEq

namespace Fault

/-- The wording of a fault. -/
def message : Fault → String
  | unexpectedChar c => "Unexpected character " ++ Text.quotedChar c
  | invalidIdentChar => "Invalid character in identifier"
  | expectedUnicodeEscape => "Expected unicode escape"
  | badEscape wanted => "Bad character escape sequence, expected " ++ wanted
  | invalidStringEscape => "Invalid string escape"
  | invalidUnicodeEscape => "Invalid unicode escape"
  | mergeConflict => "Merge conflict marker encountered."
  | unterminatedBlockComment => "Unterminated block comment"
  | unterminatedString => "Unterminated string constant"
  | unterminatedRegex => "Unterminated regexp literal"
  | unterminatedTemplate => "Unterminated template"
  | identAfterNumber => "Identifier cannot follow number"
  | expectedDigit radix =>
    "Expected " ++ (if radix == 2 then "a binary" else if radix == 8 then "an octal"
      else if radix == 16 then "a hexadecimal" else "a decimal") ++ " digit"
  | exponentWithoutDigits => "Expected +, - or decimal digit after e"
  | separatorBetweenDigits => "A numeric separator is only allowed between two digits"
  | legacyOctal => "Legacy octal escape is not permitted in strict mode"
  | legacyOctalLiteral =>
    "Legacy octal literals are not available when targeting ECMAScript 5 and higher"
  | legacyDecimal => "Legacy decimal escape is not permitted in strict mode"
  | legacyCommentInModule => "Legacy comments cannot be used in module code"
  | unknownRegexFlags => "Unknown regular expression flags."
  | duplicatedRegexFlag flag =>
    "Duplicated regular expression flag '" ++ flag.toString ++ "'."
  | expected wanted got => "Expected '" ++ wanted ++ "', got '" ++ got ++ "'"
  | unexpected got wanted => "Unexpected token \x60" ++ got ++ "\x60. Expected " ++ wanted
  | unexpectedEof => "Unexpected eof"
  | expectedIdent => "Expected ident"
  | identExpected => "Expected an identifier"
  | expectedSemicolonAfterExpr => "Expected ';', '\x7d' or <eof>"
  | semicolonExpected => "Expected a semicolon"
  | expressionExpected => "Expression expected"
  | spaceAfterHash => "Unexpected space between # and identifier"
  | identInStrict name => "\x60" ++ name ++ "\x60 cannot be used as an identifier in strict mode"
  | awaitAsIdent => "\x60await\x60 cannot be used as an identifier in an async context"
  | evalOrArgumentsInStrict =>
    "'eval' and 'arguments' cannot be used as a binding identifier in strict mode"
  | argumentsInStrict => "Invalid use of 'arguments' in strict mode"
  | argumentsInField => "'arguments' is only allowed in functions and class methods"
  | letReserved => "Unexpected token \x60let\x60. Expected let is reserved in const, let, class declaration"
  | yieldParam => "'yield' cannot be used as a parameter within generator"
  | awaitInParam => "\x60await\x60 expressions cannot be used in a parameter initializer."
  | awaitInFunction => "await isn't allowed in non-async function"
  | awaitStar =>
    "await* has been removed from the async functions proposal. Use Promise.all() instead."
  | reservedImport => "cannot import as reserved word"
  | importBindingIsString name =>
    "A string literal cannot be used as an imported binding.\n- Did you mean \x60import \x7b \"" ++ name
      ++ "\" as foo \x7d\x60?"
  | exportBindingIsString => "A string literal cannot be used as an exported binding without \x60from\x60."
  | exportWithoutFrom name => "\x60" ++ name ++ "\x60 cannot be used without \x60from\x60 clause"
  | unaryBeforePower => "'**' cannot be applied to unary/await expression."
  | nullishMix => "Nullish coalescing operator(??) requires parens when mixing with logical operators"
  | assignToThis => "Cannot assign to this"
  | invalidAssignTarget => "Invalid assignment target"
  | invalidOperand =>
    "The left-hand side of an assignment expression must be a variable or a property access."
  | notAPattern => "Not a pattern"
  | notAnExpression => "Not an expression"
  | defaultInObject => "assignment property is invalid syntax"
  | emptyParens => "Parenthesized expression cannot be empty"
  | spreadInParens => "Parenthesized expression cannot contain spread operator"
  | optionalChainInNew => "Constructor in/after an optional chaining is not allowed."
  | optionalChainTemplate => "Tagged template literal is not allowed in optional chain."
  | superMisplaced => "Invalid access to super"
  | superCallMisplaced => "Invalid \x60super()\x60"
  | superCallOptional => "Super call cannot be optional"
  | superPrivateName => "Index super with private name is not allowed"
  | newTargetMisplaced =>
    "'new.target' is only allowed in the body of a function declaration, function expression, or class."
  | arrowAfterLineBreak => "Unexpected line break between arrow head and arrow"
  | deleteIdent => "'delete' cannot be called on an identifier in strict mode"
  | commaInComputedKey => "A comma expression is not allowed in a computed property name"
  | getterParams => "A \x60get\x60 accessor cannot have parameters"
  | setterParams => "A \x60set\x60 accessor must have exactly one parameter"
  | restInSetter => "Rest pattern is not allowed in setter"
  | restNotLast => "Rest element must be final element"
  | restParamNotLast => "A rest parameter must be last in a parameter list"
  | commaAfterRest => "Trailing comma isn't permitted after a rest element"
  | restWithoutName => "\x60...\x60 must be followed by an identifier in declaration contexts"
  | trailingComma => "Trailing comma is not allowed"
  | typeAnnotationAfterDefault => "Type annotations must come before default assignments"
  | throwLineBreak => "LineBreak cannot follow 'throw'"
  | breakOutside =>
    "A 'break' statement can only be used within an enclosing iteration or switch statement"
  | breakUnknownLabel => "A 'break' statement can only jump to a label of an enclosing statement"
  | continueOutside =>
    "A 'continue' statement can only jump to a label of an enclosing iteration statement"
  | jumpAcrossFunction => "Jump target cannot cross function boundary"
  | duplicateLabel label => "Label " ++ label ++ " is already declared"
  | labelledFunction => "Function cannot be labelled in strict mode"
  | labelledAsync => "Generator or async function cannot be labelled"
  | returnOutside => "Return statement is not allowed here"
  | declarationMisplaced => "Declaration is not allowed"
  | multipleDefaults => "A switch block cannot have multiple defaults"
  | withInStrict => "With statement are not allowed in strict mode"
  | withUnsupported =>
    "The 'with' statement is not supported. All symbols in a 'with' block will have type 'any'."
  | forAwaitNotOf => "for await syntax is valid only for for-of statement"
  | forOfAsync => "The left-hand side of a \x60for...of\x60 statement may not be \x60async\x60"
  | forHeadBindings => "Expected one variable binding"
  | forHeadInit => "Unexpected initializer in for in/of loop"
  | forHeadTyped => "The left-hand side of a 'for...of' statement cannot use a type annotation"
  | forInPattern => "The left-hand side of a 'for...in' statement cannot be a destructuring pattern"
  | emptyVarList => "Variable declaration list cannot be empty"
  | constWithoutInit => "'const' declarations must be initialized"
  | patternWithoutInit => "Destructuring bindings require initializers"
  | usingWithoutInit => "Using declaration requires initializer"
  | usingPattern => "Using declaration only allows identifiers"
  | usingInForIn => "Using declaration is not allowed in for-in loop"
  | importExportInScript => "'import', and 'export' cannot be used outside of module code"
  | strictDirective => "Illegal 'use strict' directive in function with non-simple parameter list."
  | asyncConstructor => "Constructor can't be an async function"
  | generatorConstructor => "Constructor can't be a generator"
  | accessorConstructor => "Class constructor can't be an accessor."
  | duplicateConstructor => "A class can only have one constructor"
  | fieldNamedConstructor => "Classes may not have a non-static field named 'constructor'"
  | privateConstructor => "Classes can't have a private field named '#constructor'."
  | constructorTypeParams => "Type parameters cannot appear on a constructor declaration"
  | constructorReturnType => "Type annotation cannot appear on a constructor declaration"
  | className => "Invalid class name"
  | extendsTwice => "\x60extends\x60 clause already seen."
  | extendsAfterImplements => "'extends' clause must precede 'implements' clause."
  | extendsMany => "Classes can only extend a single class"
  | implementsTwice => "\x60implements\x60 clause already seen"
  | decoratorsTwice =>
    "Decorators may not appear after \x60export\x60 or \x60export default\x60 if they also appear before \x60export\x60."
  | declareMember => "\x60declare\x60 modifier cannot appear on class elements of this kind"
  | declareAmbient => "\x60declare\x60 modifier not allowed for code already in an ambient context"
  | accessPrivate => "An accessibility modifier cannot be used with a private identifier."
  | modifierPrivate modifier => "'" ++ modifier ++ "' modifier cannot be used with a private identifier"
  | modifierConflict first second =>
    "'" ++ first ++ "' modifier cannot be used with '" ++ second ++ "' modifier."
  | modifierOrder first second => "'" ++ first ++ "' modifier must precede '" ++ second ++ "' modifier."
  | modifierRepeated modifier => "'" ++ modifier ++ "' modifier already seen."
  | modifierOnConstructor modifier =>
    "'" ++ modifier ++ "' modifier cannot appear on a constructor declaration"
  | modifierMisplaced => "Modifiers cannot appear here"
  | modifierBeforeAccessor => "\x60async\x60 modifier cannot be used here"
  | abstractImplemented => "Abstract method cannot have an implementation."
  | abstractInitialized => "Abstract property cannot have an initializer."
  | abstractOutside => "Abstract methods can only appear within an abstract class."
  | abstractMisplaced => "\x60abstract\x60 modifier can only appear on a class or method declaration"
  | overrideWithoutSuper =>
    "This member cannot have an 'override' modifier because its containing class does not extend another class."
  | ambientImplementation => "An implementation cannot be declared in ambient contexts"
  | readonlyMethod => "A method cannot be readonly"
  | readonlyAccessor => "A getter or a setter cannot be readonly"
  | paramProperty => "A parameter property is only allowed in a constructor implementation"
  | paramInitializer =>
    "A parameter initializer is only allowed in a function or constructor implementation"
  | paramPropertyPattern => "Typescript parameter property must be an identifier or assignment pattern"
  | optionalWithDefault => "Parameter cannot have question mark and initializer"
  | optionalPattern =>
    "A binding pattern parameter cannot be optional in an implementation signature."
  | restOptional => "A rest parameter cannot be optional"
  | restDefault => "A rest parameter cannot have an initializer"
  | optionalMember => "An object member cannot be declared optional"
  | requiredAfterOptional => "A required element cannot follow an optional element."
  | emptyTypeArgs => "Type argument list cannot be empty."
  | emptyTypeParams => "Type parameter list cannot be empty"
  | importTypeArgument => "literal in an import type should be string literal"
  | interfaceName => "interface name is invalid"
  | interfaceExtends =>
    "An interface can only extend an identifier/qualified-name with optional type arguments."
  | interfacePrivateName => "private names are not allowed in interface"
  | indexParameters => "An index signature must have exactly one parameter"
  | enumNumericName => "An enum member cannot have a numeric name"
  | enumComputedName => "Computed property names are not allowed in enums"
  | typeModifierRepeated =>
    "The 'type' modifier cannot be used on a named import when 'import type' is used on its import statement."
  | typeModifierRepeatedExport =>
    "The 'type' modifier cannot be used on a named export when 'export type' is used on its export statement."
  | typeParamModifier modifier => "'" ++ modifier ++ "' modifier cannot appear on a type parameter"
  | typeParamVariance modifier =>
    "'" ++ modifier ++ "' modifier can only appear on a type parameter of a class, interface or type alias"
  | typeParamConst =>
    "'const' modifier can only appear on a type parameter of a function, method or class"
  | nonNullTarget target =>
    "Typescript non-null assertion operator is not allowed with '" ++ target ++ "'"
  | jsxClosingTag tag => "Expected corresponding JSX closing tag for <" ++ tag ++ ">"
  | jsxEmptyAttr => "JSX attributes must only be assigned a non-empty expression"
  | jsxValue => "JSX value should be either an expression or a quoted JSX text"
  | jsxUnescaped alternatives => "Unexpected token. Did you mean " ++ alternatives ++ "?"

/-- Whether a fault tells of a sign that is read as a comment but counts as the start of a token. -/
def startsToken : Fault → Bool
  | legacyCommentInModule | mergeConflict => true
  | _ => false

end Fault

/-- A fault at a place. -/
structure FaultAt where
  fault : Fault
  span : Span
deriving Inhabited, Repr, DecidableEq

end Detype
