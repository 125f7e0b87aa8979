import Licensing.ParseError
import Licensing.Text.Printable
import Licensing.Token
/-!
# Parsers

A parser reads tokens at a cursor and hands back a value with the cursor behind it.  A failure leaves the caller where
it was, so a choice may try the next alternative.  Running out of nesting is a third outcome: no choice and no optional
part recovers from it.
-/
namespace Licensing

inductive Outcome (α : Type)
  | done (value : α) (rest : Cursor)
  | failed (error : ParseError)
  | exhausted
  deriving DecidableEq, Repr

abbrev Parser (α : Type) := Cursor → Outcome α

namespace Parser

variable {α β : Type}

def endOfInput (c : Cursor) : ParseError :=
  .of .endOfInput c.source c.source.length "unexpected end of input".toList

def pure (a : α) : Parser α := fun c => .done a c

def exhausted : Parser α := fun _ => .exhausted

def bind (p : Parser α) (f : α → Parser β) : Parser β := fun c =>
  match p c with
  | .done a rest => f a rest
  | .failed e => .failed e
  | .exhausted => .exhausted

/-- Changes the value of a success. -/
def map (f : α → β) (p : Parser α) : Parser β := p.bind fun a => pure (f a)

/-- Both parts in order. -/
def both (p : Parser α) (q : Parser β) : Parser (α × β) := p.bind fun a => q.map fun b => (a, b)

/-- The parts in order, and the list of their values. -/
def seq : List (Parser α) → Parser (List α)
  | [] => pure []
  | p :: ps => p.bind fun a => (seq ps).map (a :: ·)

/-- One token that is exactly this text. -/
def literal (word : Text) : Parser Text := fun c =>
  match c.next? with
  | none => .failed (endOfInput c)
  | some (t, rest) =>
    if t.text = word then .done word rest
    else .failed (.of .unexpectedToken c.source t.start
      ("expected ".toList ++ Text.quoted word ++ ", got ".toList ++ Text.quoted t.text))

/-- One token whose text passes `check`; an error of the check is moved to the token's place. -/
def oneToken (check : Text → Except ParseError α) : Parser α := fun c =>
  match c.next? with
  | none => .failed (endOfInput c)
  | some (t, rest) =>
    match check t.text with
    | .ok a => .done a rest
    | .error e => .failed (e.relocate c.source t.start)

/-- Which error a choice reports when every alternative failed. -/
inductive Policy
  /-- The error of the last alternative. -/
  | last
  /-- One error for the whole choice, at its start, unless every alternative failed for want of input. -/
  | replace (kind : ErrorKind) (detail : Text)
  deriving DecidableEq, Repr

/-- The error that stands for a whole choice. -/
def choiceError (kind : ErrorKind) (detail : Text) (c : Cursor) : ParseError :=
  let about := if detail.isEmpty then kind.name.toList else detail
  match c.peek? with
  | some t => .of kind c.source t.start (about ++ ": ".toList ++ Text.quoted t.text)
  | none => .of kind c.source c.source.length about

/-- `errors` are those of the alternatives, the latest first. -/
def Policy.report (errors : List ParseError) (c : Cursor) : Policy → ParseError
  | .last => errors.headD (endOfInput c)
  | .replace kind detail =>
    match errors with
    | [] => choiceError kind detail c
    | e :: es =>
      if (e :: es).all (·.kind = .endOfInput) then e else choiceError kind detail c

/-- Tries alternatives in order, after those that failed with `errors`. -/
def tryEach (policy : Policy) (errors : List ParseError) : List (Parser α) → Parser α
  | [] => fun c => .failed (policy.report errors c)
  | p :: ps => fun c =>
    match p c with
    | .done a rest => .done a rest
    | .failed e => tryEach policy (e :: errors) ps c
    | .exhausted => .exhausted

/-- The first alternative that succeeds. -/
def oneOf (policy : Policy) (alternatives : List (Parser α)) : Parser α :=
  tryEach policy [] alternatives

/-- An optional part: when it fails, nothing is read. -/
def maybe (p : Parser α) : Parser (Option α) := fun c =>
  match p c with
  | .done a rest => .done (some a) rest
  | .failed _ => .done none c
  | .exhausted => .exhausted

end Parser
end Licensing
