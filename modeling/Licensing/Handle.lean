import Licensing.Grammar
import Licensing.Text.Utf8
/-!
# Expressions that own their source

A handle holds a source text and the expression read from it until it is released.  Both are set when it is made and
dropped when it is released.  A handle made from a buffer keeps a text of its own, and nothing of the buffer.
-/
namespace Licensing

structure Handle where
  source? : Option Text
  expr? : Option Expr
  deriving DecidableEq, Repr

namespace Handle

variable [Grammar.Stack]

def ofText (text : Text) (maxDepth : Option Int) : Except ParseError Handle :=
  (Grammar.parse text maxDepth).map fun e => ⟨some text, some e⟩

/-- The fault stands at the first character that is not in the bytes. -/
def undecodable (raw : Bytes) (d : Utf8.Damage) : ParseError :=
  .of .illegalCharacter (Utf8.decodeLossy raw) d.chars ("invalid UTF-8 byte at offset ".toList ++ Text.ofNat d.offset)

def ofBytes (raw : Bytes) (maxDepth : Option Int) : Except ParseError Handle :=
  match Utf8.decode raw with
  | .ok text => ofText text maxDepth
  | .error d => .error (undecodable raw d)

/-- What a handle is made from: a text, bytes, or what a buffer holds at the time.  A view shows the bytes at some
places of the buffer. -/
inductive Input
  | text (t : Text)
  | bytes (raw : Bytes)
  | buffer
  | view (places : List Nat)
  deriving DecidableEq, Repr

def viewed (buffer : Bytes) (places : List Nat) : Bytes := places.filterMap (buffer[·]?)

def make (buffer : Bytes) (maxDepth : Option Int) : Input → Except ParseError Handle
  | .text t => ofText t maxDepth
  | .bytes raw => ofBytes raw maxDepth
  | .buffer => ofBytes buffer maxDepth
  | .view places => ofBytes (viewed buffer places) maxDepth

def isReleased (h : Handle) : Bool := h.expr?.isNone

def release (_ : Handle) : Handle := ⟨none, none⟩

def shown (h : Handle) : Text :=
  match h.source? with
  | none => "Spdx(<released>)".toList
  | some t => "Spdx(".toList ++ Text.quoted t ++ [')']

/-- What a caller does with a handle.  Leaving a scope releases it; `keep` remembers the expression. -/
inductive Step
  | source
  | expr
  | isReleased
  | release
  | shown
  | enter
  | leave
  | keep
  | kept
  deriving DecidableEq, Repr

inductive Answer
  | text (t : Text)
  | expr (e : Expr)
  | flag (b : Bool)
  | nothing
  /-- The handle no longer has what was asked for. -/
  | released
  deriving DecidableEq, Repr

def releasedMessage : String := "Spdx instance has been released"

/-- A handle and the expression its caller remembers. -/
structure Session where
  handle : Handle
  kept : Option Expr
  deriving DecidableEq, Repr

namespace Session

def step (s : Session) : Step → Session × Answer
  | .source => (s, s.handle.source?.elim .released .text)
  | .expr => (s, s.handle.expr?.elim .released .expr)
  | .isReleased => (s, .flag s.handle.isReleased)
  | .release => ({ s with handle := s.handle.release }, .nothing)
  | .shown => (s, .text s.handle.shown)
  | .enter => (s, .flag true)
  | .leave => ({ s with handle := s.handle.release }, .nothing)
  | .keep =>
    match s.handle.expr? with
    | none => (s, .released)
    | some e => ({ s with kept := some e }, .nothing)
  | .kept => (s, s.kept.elim .nothing .expr)

/-- The answers to a sequence of steps. -/
def run (s : Session) : List Step → List Answer
  | [] => []
  | a :: as => (s.step a).2 :: run (s.step a).1 as

end Session

/-- What happens while a handle lives: its caller does something with it, or gives the buffer that it was made from
another content. -/
inductive Event
  | step (a : Step)
  | overwrite (content : Bytes)
  deriving DecidableEq, Repr

structure Scene where
  buffer : Bytes
  session : Session
  deriving DecidableEq, Repr

namespace Scene

def next (w : Scene) : Event → Scene
  | .step a => { w with session := (w.session.step a).1 }
  | .overwrite content => { w with buffer := content }

def after (w : Scene) (events : List Event) : Scene := events.foldl next w

/-- What the handle answers here. -/
def ask (w : Scene) (a : Step) : Answer := (w.session.step a).2

/-- The answers while some events happen. -/
def answers (w : Scene) : List Event → List Answer
  | [] => []
  | .step a :: events => w.ask a :: answers (w.next (.step a)) events
  | .overwrite content :: events => answers (w.next (.overwrite content)) events

end Scene
end Handle
end Licensing
