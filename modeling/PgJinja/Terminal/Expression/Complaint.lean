import PgJinja.Text.Digit
import PgJinja.Text.Numeral

/-! What can be wrong with the text of an expression. -/
namespace PgJinja.Terminal.Expression

inductive NumberForm where
  | decimal
  | hexadecimal
  | octal
  | binary
  | imaginary
  deriving DecidableEq, Repr

def NumberForm.text : NumberForm → String
  | decimal => "decimal"
  | hexadecimal => "hexadecimal"
  | octal => "octal"
  | binary => "binary"
  | imaginary => "imaginary"

inductive Kind where
  | awaited
  | call
  | comparison
  | conditional
  | dictComprehension
  | dictDisplay
  | ellipsis
  | generator
  | lambda
  | literal
  | member
  | name
  | named
  | none
  | operation
  | setComprehension
  | setDisplay
  | starred
  | template
  | truth (value : Bool)
  | tuple
  | yielded
  deriving DecidableEq, Repr

def Kind.text : Kind → String
  | awaited => "await expression"
  | call => "function call"
  | comparison => "comparison"
  | conditional => "conditional expression"
  | dictComprehension => "dict comprehension"
  | dictDisplay => "dict literal"
  | ellipsis => "ellipsis"
  | generator => "generator expression"
  | lambda => "lambda"
  | literal => "literal"
  | member => "attribute"
  | name => "name"
  | named => "named expression"
  | none => "None"
  | operation => "expression"
  | setComprehension => "set comprehension"
  | setDisplay => "set display"
  | starred => "starred"
  | template => "f-string expression"
  | truth true => "True"
  | truth false => "False"
  | tuple => "tuple"
  | yielded => "yield expression"

inductive ParameterFault where
  | afterDoubleStar
  | afterStar
  | bareStar
  | doubleStarDefault
  | inParentheses
  | noComma
  | noDefault
  | order
  | slashFirst
  | slashTwice
  | starDefault
  | starTwice
  deriving DecidableEq, Repr

def ParameterFault.message : ParameterFault → String
  | afterDoubleStar => "arguments cannot follow var-keyword argument"
  | afterStar => "/ must be ahead of *"
  | bareStar => "named arguments must follow bare *"
  | doubleStarDefault => "var-keyword argument cannot have default value"
  | inParentheses => "Lambda expression parameters cannot be parenthesized"
  | noComma => "expected comma between / and *"
  | noDefault => "expected default value expression"
  | order => "non-default argument follows default argument"
  | slashFirst => "at least one argument must precede /"
  | slashTwice => "/ may appear only once"
  | starDefault => "var-positional argument cannot have default value"
  | starTwice => "* argument may appear only once"

inductive FieldFault where
  | backslash
  | badConversion
  | closing (c : Char)
  | comment
  | empty
  | emptyBefore (c : Char)
  | mismatch (closer opener : Char)
  | openBrace
  | openQuote
  | singleBrace
  | tooDeep
  | tooManyBrackets
  deriving DecidableEq, Repr

def FieldFault.message : FieldFault → String
  | backslash => "f-string expression part cannot include a backslash"
  | badConversion => "f-string: invalid conversion character: expected \x27s\x27, \x27r\x27, or \x27a\x27"
  | closing c => "f-string: unmatched \x27" ++ c.toString ++ "\x27"
  | comment => "f-string expression part cannot include \x27#\x27"
  | empty => "f-string: empty expression not allowed"
  | emptyBefore c => "f-string: expression required before \x27" ++ c.toString ++ "\x27"
  | mismatch closer opener =>
    "f-string: closing parenthesis \x27" ++ closer.toString
      ++ "\x27 does not match opening parenthesis \x27" ++ opener.toString ++ "\x27"
  | openBrace => "f-string: expecting \x27\x7d\x27"
  | openQuote => "f-string: unterminated string"
  | singleBrace => "f-string: single \x27\x7d\x27 is not allowed"
  | tooDeep => "f-string: expressions nested too deeply"
  | tooManyBrackets => "f-string: too many nested parenthesis"

inductive Complaint where
  | invalid
  /-- The text is read by too many rules inside each other. -/
  | overflow
  -- Signs.
  | badCharacter (c : Char)
  | badDigit (c : Char) (form : NumberForm)
  | badNumber (form : NumberForm)
  | closing (c : Char)
  | hiddenCharacter (c : Char)
  | leadingZeros
  | loneBackslash
  | mismatch (closer opener : Char)
  | neverClosed (c : Char)
  | openQuote (triple : Bool)
  | tooDeep
  -- Values.
  | bytesNotAscii
  | longNumber (digits : Nat)
  | mixedBytes
  | field (fault : FieldFault)
  | inField (c : Complaint)
  -- Forms.
  | argumentAssignment
  | assignment
  | assignmentHere (kind : Kind)
  | assignmentTo (kind : Kind)
  | bareGenerator
  | bareStar
  | bareTarget
  | doubleStarred
  | doubleStarredClause
  | missingColon
  | missingComma
  | missingElse
  | missingParentheses (name : String)
  | missingValue
  | namedTarget (kind : Kind)
  | parameter (fault : ParameterFault)
  | positionalAfter (unpacking : Bool)
  | starred
  | starredAfter
  | starredClause
  | starredValue
  deriving DecidableEq, Repr

namespace Complaint

def codePoint (c : Char) : String :=
  let width := if c.toNat < 0x10000 then 4 else if c.toNat < 0x100000 then 5 else 6
  "U+" ++ String.ofList ((Text.hex width c.toNat).map Char.toUpper)

def message : Complaint → String
  | invalid => "invalid syntax"
  | overflow => ""
  | badCharacter c => "invalid character \x27" ++ c.toString ++ "\x27 (" ++ codePoint c ++ ")"
  | badDigit c form => "invalid digit \x27" ++ c.toString ++ "\x27 in " ++ form.text ++ " literal"
  | badNumber form => "invalid " ++ form.text ++ " literal"
  | closing c => "unmatched \x27" ++ c.toString ++ "\x27"
  | hiddenCharacter c => "invalid non-printable character " ++ codePoint c
  | leadingZeros =>
    "leading zeros in decimal integer literals are not permitted; "
      ++ "use an 0o prefix for octal integers"
  | loneBackslash => "unexpected character after line continuation character"
  | mismatch closer opener =>
    "closing parenthesis \x27" ++ closer.toString ++ "\x27 does not match opening parenthesis \x27"
      ++ opener.toString ++ "\x27"
  | neverClosed c => "\x27" ++ c.toString ++ "\x27 was never closed"
  | openQuote false => "unterminated string literal (detected at line 1)"
  | openQuote true => "unterminated triple-quoted string literal (detected at line 1)"
  | tooDeep => "too many nested parentheses"
  | bytesNotAscii => "bytes can only contain ASCII literal characters"
  | longNumber digits =>
    (Text.NumeralFault.long digits).message
      ++ " - Consider hexadecimal for huge integer literals to avoid decimal conversion limits."
  | mixedBytes => "cannot mix bytes and nonbytes literals"
  | field fault => fault.message
  | inField c => "f-string: " ++ c.message
  | argumentAssignment => "expression cannot contain assignment, perhaps you meant \"==\"?"
  | assignment => "invalid syntax. Maybe you meant \x27==\x27 or \x27:=\x27 instead of \x27=\x27?"
  | assignmentHere kind =>
    "cannot assign to " ++ kind.text ++ " here. Maybe you meant \x27==\x27 instead of \x27=\x27?"
  | assignmentTo kind => "cannot assign to " ++ kind.text
  | bareGenerator => "Generator expression must be parenthesized"
  | bareStar => "Invalid star expression"
  | bareTarget => "did you forget parentheses around the comprehension target?"
  | doubleStarred => "cannot use double starred expression here"
  | doubleStarredClause => "dict unpacking cannot be used in dict comprehension"
  | missingColon => "\x27:\x27 expected after dictionary key"
  | missingComma => "invalid syntax. Perhaps you forgot a comma?"
  | missingElse => "expected \x27else\x27 after \x27if\x27 expression"
  | missingParentheses name =>
    "Missing parentheses in call to \x27" ++ name ++ "\x27. Did you mean " ++ name ++ "(...)?"
  | missingValue => "expression expected after dictionary key and \x27:\x27"
  | namedTarget kind => "cannot use assignment expressions with " ++ kind.text
  | parameter fault => fault.message
  | positionalAfter true => "positional argument follows keyword argument unpacking"
  | positionalAfter false => "positional argument follows keyword argument"
  | starred => "cannot use starred expression here"
  | starredAfter => "iterable argument unpacking follows keyword argument unpacking"
  | starredClause => "iterable unpacking cannot be used in comprehension"
  | starredValue => "cannot use a starred expression in a dictionary value"

end Complaint
end PgJinja.Terminal.Expression
