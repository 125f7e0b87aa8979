import Licensing.Grammar
/-!
# Parsers as data

A recipe says how a parser is put together.  Whatever holds of every parser that the combinators can build is proved by
induction on recipes.
-/
namespace Licensing

/-- What a recipe's parser yields: a piece of an expression, the text of a literal, the values of a sequence, or
nothing where an optional part is absent. -/
inductive Node
  | expr (e : Expr)
  | exception (name : Text)
  | idString (t : Text)
  | word (t : Text)
  | list (vs : List Node)
  | nothing
  deriving Inhabited, Repr

namespace Node

mutual

def render : Node → Text
  | .expr e => e.render
  | .exception x => x
  | .idString t => t
  | .word t => t
  | .list vs => '(' :: renderAll vs ++ [')']
  | .nothing => "None".toList

def renderAll : List Node → Text
  | [] => []
  | [v] => v.render
  | v :: vs => v.render ++ ", ".toList ++ renderAll vs

end

def first : Node → Node
  | .list (v :: _) => v
  | v => v

def last : Node → Node
  | .list vs => vs.getLastD (.list [])
  | v => v

end Node

/-- The checks on a single token. -/
inductive Check
  | idString
  | licenseId
  | licenseIdAndPlus
  | licenseRef
  | exceptionId
  deriving DecidableEq, Repr

def Check.run : Check → Text → Except ParseError Node
  | .idString, t => (Identifier.idString t).map .idString
  | .licenseId, t => (Identifier.licenseId t).map fun s => .expr (.simple s)
  | .licenseIdAndPlus, t => (Identifier.licenseIdAndPlus t).map fun s => .expr (.simple s)
  | .licenseRef, t => (Identifier.licenseRef t).map fun s => .expr (.simple s)
  | .exceptionId, t => (Identifier.exceptionId t).map .exception

inductive Recipe
  | token (check : Check)
  | literal (word : Text)
  | seq (parts : List Recipe)
  | oneOf (policy : Parser.Policy) (alternatives : List Recipe)
  | maybe (part : Recipe)
  | mapped (f : Node → Node) (part : Recipe)
  | simple
  | withException
  | compound
  deriving Inhabited

namespace Recipe

variable [Grammar.Stack]

mutual

def parser : Recipe → Parser Node
  | .token check => Parser.oneToken check.run
  | .literal word => (Parser.literal word).map .word
  | .seq parts => (Parser.seq (parsers parts)).map .list
  | .oneOf policy alternatives => Parser.oneOf policy (parsers alternatives)
  | .maybe part => (Parser.maybe part.parser).map (·.getD .nothing)
  | .mapped f part => part.parser.map f
  | .simple => Grammar.simple.map fun s => .expr (.simple s)
  | .withException => Grammar.withException.map .expr
  | .compound => (Grammar.compound Grammar.Stack.groups).map .expr

def parsers : List Recipe → List (Parser Node)
  | [] => []
  | r :: rs => r.parser :: parsers rs

end

end Recipe
end Licensing
