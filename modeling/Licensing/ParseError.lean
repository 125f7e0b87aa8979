import Licensing.Text
/-!
# Why an expression is refused

An error names its kind, the text that was read, the offset of the fault and what is wrong there.
-/
namespace Licensing

inductive ErrorKind
  | lessThanMinimumCharacterLength
  | illegalCharacter
  | missingColonAfterDocumentRef
  | missingLicenseRefPrefix
  | unknownLicenseId
  | unknownLicenseExceptionId
  | invalidSimpleExpression
  | unexpectedToken
  | endOfInput
  deriving DecidableEq, Repr

namespace ErrorKind

def name : ErrorKind → String
  | .lessThanMinimumCharacterLength => "LessThanMinimumCharacterLength"
  | .illegalCharacter => "IllegalCharacter"
  | .missingColonAfterDocumentRef => "MissingColonAfterDocumentRef"
  | .missingLicenseRefPrefix => "MissingLicenseRefPrefix"
  | .unknownLicenseId => "UnknownLicenseId"
  | .unknownLicenseExceptionId => "UnknownLicenseExceptionId"
  | .invalidSimpleExpression => "InvalidSimpleExpression"
  | .unexpectedToken => "UnexpectedToken"
  | .endOfInput => "EndOfInput"

def all : List ErrorKind :=
  [.lessThanMinimumCharacterLength, .illegalCharacter, .missingColonAfterDocumentRef, .missingLicenseRefPrefix,
    .unknownLicenseId, .unknownLicenseExceptionId, .invalidSimpleExpression, .unexpectedToken, .endOfInput]

def ofName? (t : Text) : Option ErrorKind := all.find? fun k => k.name.toList = t

end ErrorKind

structure ParseError where
  kind : ErrorKind
  expression : Text
  position : Int
  detail : Text
  deriving DecidableEq, Repr

namespace ParseError

/-- An error without a detail shows its kind instead. -/
def of (kind : ErrorKind) (expression : Text) (position : Int) (detail : Text) : ParseError :=
  ⟨kind, expression, position, if detail.isEmpty then kind.name.toList else detail⟩

/-- The same error seen from a larger text, in which the one that was read begins at `offset`. -/
def relocate (e : ParseError) (expression : Text) (offset : Int) : ParseError :=
  of e.kind expression (offset + e.position) e.detail

/-- Three lines: what is wrong, the text, and a caret under the fault. -/
def message (e : ParseError) : Text :=
  "SPDX parse error at position ".toList ++ Text.ofInt e.position ++ ": ".toList ++ e.detail ++
    "\n  ".toList ++ e.expression ++ "\n  ".toList ++ Text.spaces e.position.toNat ++ ['^']

end ParseError
end Licensing
