import Licensing.Identifier
import Licensing.Parser
/-!
# The grammar of license expressions

    simple   = license-id / license-id "+" / license-ref
    primary  = simple "WITH" exception-id / simple / "(" compound ")"
    and      = primary [ "AND" primary ]
    compound = and [ "OR" and ]

Each level takes at most one operator.
-/
namespace Licensing.Grammar

open Licensing.Parser

def simple : Parser Simple :=
  oneOf (.replace .invalidSimpleExpression "not a license-id, license-id+, or license-ref".toList)
    [oneToken Identifier.licenseId, oneToken Identifier.licenseIdAndPlus, oneToken Identifier.licenseRef]

def withException : Parser Expr :=
  (simple.both ((literal "WITH".toList).both (oneToken Identifier.exceptionId))).map fun p =>
    .withException p.1 p.2.2

def parenthesized (inner : Parser Expr) : Parser Expr :=
  ((literal "(".toList).both (inner.both (literal ")".toList))).map (·.2.1)

def primary (group : Parser Expr) : Parser Expr :=
  oneOf .last [oneOf .last [withException, simple.map Expr.simple], group]

/-- An operand, and perhaps an operator with a second one. -/
def level (operator : Text) (join : Expr → Expr → Expr) (operand : Parser Expr) : Parser Expr :=
  (operand.both (maybe ((literal operator).both operand))).map fun p =>
    match p.2 with
    | none => p.1
    | some q => join p.1 q.2

def levels (group : Parser Expr) : Parser Expr :=
  level "OR".toList Expr.or (level "AND".toList Expr.and (primary group))

/-- An expression in which at most `n` groups are open at once. -/
def compound : Nat → Parser Expr
  | 0 => levels (parenthesized exhausted)
  | n + 1 => levels (parenthesized (compound n))

/-- How many groups a parser may have open at once before it gives up: at least as many as the settings of a scan may
ask for. -/
class Stack where
  groups : Nat
  enough : 64 ≤ groups

/-- A stack with nothing to spare. -/
abbrev Stack.least : Stack := ⟨64, Nat.le_refl 64⟩

variable [Stack]

/-- The first parenthesis that opens a group deeper than `limit`, where `depth` groups are open. -/
def firstTooDeep? (limit : Int) : Nat → List Token → Option Token
  | _, [] => none
  | depth, t :: ts =>
    if t.text = ['('] then
      if limit < depth + 1 then some t else firstTooDeep? limit (depth + 1) ts
    else if t.text = [')'] then firstTooDeep? limit (depth - 1) ts
    else firstTooDeep? limit depth ts

def tooDeep (text : Text) (limit : Int) (t : Token) : ParseError :=
  .of .unexpectedToken text t.start ("parentheses nested deeper than ".toList ++ Text.ofInt limit)

def exhaustion (text : Text) : ParseError :=
  .of .unexpectedToken text 0 "expression nested too deeply to parse".toList

def leftover (text : Text) (t : Token) : ParseError :=
  .of .unexpectedToken text t.start ("unexpected token after expression: ".toList ++ Text.quoted t.text)

/-- A parser's answer on a whole text: nothing may be left over. -/
def finish (text : Text) : Outcome Expr → Except ParseError Expr
  | .done e rest =>
    match rest.peek? with
    | none => .ok e
    | some t => .error (leftover text t)
  | .failed e => .error e
  | .exhausted => .error (exhaustion text)

/-- Reads an expression without a bound on its nesting other than the stack's. -/
def parseFree (text : Text) : Except ParseError Expr :=
  finish text (compound Stack.groups (.ofText text))

/-- Reads an expression.  A bound on the nesting of parentheses is checked over all tokens before the first is read. -/
def parse (text : Text) (maxDepth : Option Int) : Except ParseError Expr :=
  match maxDepth.bind fun n => (firstTooDeep? n 0 (Cursor.ofText text).tokens).map (tooDeep text n) with
  | some e => .error e
  | none => parseFree text

def isValid (text : Text) : Bool := (parse text none).isOk

end Licensing.Grammar
