import Licensing.Proofs.Except
import Licensing.Proofs.Handle.Undecodable
/-!
# The life of a handle

A handle is open until it is first released or left.  A step keeps an open handle open or closes it
(`Session.IsOpen.step`, `Session.IsOpen.close`), and changes nothing about a closed one (`Session.IsClosed.step`).  So
whether something has closed it decides what is answered (`Scene.after_open`, `Scene.after_closed`), and overwriting the
buffer decides nothing (`Scene.answers_eq`): the handle owns what it was made from (`owned_for_life`).
-/
namespace Licensing
namespace Handle

variable {text : Text} {e : Expr}

/-- Releasing a handle and leaving its scope close it. -/
def Step.closes : Step → Bool
  | .release | .leave => true
  | _ => false

def Event.closes : Event → Bool
  | .step a => a.closes
  | .overwrite _ => false

def Event.step? : Event → Option Step
  | .step a => some a
  | .overwrite _ => none

namespace Session

variable {s : Session} {a : Step}

/-- The caller remembers no other expression. -/
def Remembers (e : Expr) (s : Session) : Prop := s.kept = none ∨ s.kept = some e

structure IsOpen (text : Text) (e : Expr) (s : Session) : Prop where
  handle : s.handle = ⟨some text, some e⟩
  kept : s.Remembers e

structure IsClosed (e : Expr) (s : Session) : Prop where
  handle : s.handle = ⟨none, none⟩
  kept : s.Remembers e

/-! ## One step -/

theorem IsOpen.step (h : s.IsOpen text e) (ha : a.closes = false) : (s.step a).1.IsOpen text e := by
  cases a with
  | release | leave => cases ha
  | keep =>
    have hkeep : (s.step .keep).1 = { s with kept := some e } := by simp [Session.step, h.handle]
    exact ⟨by rw [hkeep, h.handle], .inr (by rw [hkeep])⟩
  | _ => exact h

theorem IsOpen.close (h : s.IsOpen text e) (ha : a.closes = true) : (s.step a).1.IsClosed e := by
  cases a with
  | release | leave => exact ⟨rfl, h.kept⟩
  | _ => cases ha

/-- Nothing that a caller does changes a closed handle or what is remembered of it. -/
theorem IsClosed.step (h : s.IsClosed e) (a : Step) : (s.step a).1 = s := by
  cases a with
  | release | leave => simp [Session.step, release, ← h.handle]
  | keep => simp [Session.step, h.handle]
  | _ => rfl

theorem IsOpen.kept_step (h : s.IsOpen text e) (hkept : s.kept = some e) (a : Step) : (s.step a).1.kept = some e := by
  cases a with
  | keep => simp [Session.step, h.handle]
  | _ => exact hkept

end Session

namespace Scene

variable {w : Scene}

/-! ## Any number of events -/

theorem after_append (w : Scene) (before later : List Event) :
    w.after (before ++ later) = (w.after before).after later :=
  List.foldl_append

theorem after_open (h : w.session.IsOpen text e) : ∀ {events : List Event}, events.any Event.closes = false →
    (w.after events).session.IsOpen text e := by
  intro events
  induction events generalizing w with
  | nil => exact fun _ => h
  | cons v events ih =>
    intro hevents
    obtain ⟨hv, hrest⟩ : v.closes = false ∧ events.any Event.closes = false := by simpa using hevents
    cases v with
    | step a => exact ih (h.step hv) hrest
    | overwrite content => exact ih h hrest

theorem session_after_closed (h : w.session.IsClosed e) : ∀ events : List Event,
    (w.after events).session = w.session := by
  intro events
  induction events generalizing w with
  | nil => rfl
  | cons v events ih =>
    cases v with
    | step a =>
      have hsame : (w.next (.step a)).session = w.session := h.step a
      exact (ih (hsame ▸ h)).trans hsame
    | overwrite content => exact ih h

/-- **A closed handle stays closed**, whenever it was closed. -/
theorem after_closed (h : w.session.IsOpen text e) : ∀ {events : List Event}, events.any Event.closes = true →
    (w.after events).session.IsClosed e := by
  intro events
  induction events generalizing w with
  | nil => nofun
  | cons v events ih =>
    intro hevents
    cases hv : v.closes with
    | false =>
      have hrest : events.any Event.closes = true := by simpa [hv] using hevents
      cases v with
      | step a => exact ih (h.step hv) hrest
      | overwrite content => exact ih h hrest
    | true =>
      cases v with
      | overwrite content => cases hv
      | step a =>
        have hclosed : (w.next (.step a)).session.IsClosed e := h.close hv
        exact session_after_closed hclosed events ▸ hclosed

/-- Every reachable state is one of the two. -/
theorem open_or_closed (h : w.session.IsOpen text e) (events : List Event) :
    (w.after events).session.IsOpen text e ∨ (w.after events).session.IsClosed e := by
  cases hevents : events.any Event.closes with
  | false => exact .inl (after_open h hevents)
  | true => exact .inr (after_closed h hevents)

/-- What is remembered of an open handle is never forgotten. -/
theorem kept_after (h : w.session.IsOpen text e) (hkept : w.session.kept = some e) (events : List Event) :
    (w.after events).session.kept = some e := by
  induction events generalizing w with
  | nil => exact hkept
  | cons v events ih =>
    cases v with
    | overwrite content => exact ih h hkept
    | step a =>
      have hnext : (w.next (.step a)).session.kept = some e := h.kept_step hkept a
      cases ha : a.closes with
      | false => exact ih (h.step ha) hnext
      | true => exact (congrArg Session.kept (session_after_closed (h.close ha) events)).trans hnext

/-- **Overwriting the buffer makes no difference.** -/
theorem answers_eq (w : Scene) (events : List Event) :
    w.answers events = w.session.run (events.filterMap Event.step?) := by
  induction events generalizing w with
  | nil => rfl
  | cons v events ih =>
    cases v with
    | step a => exact congrArg (w.ask a :: ·) (ih _)
    | overwrite content => exact ih _

theorem answers_split (w : Scene) (a : Step) (before later : List Event) : w.answers (before ++ .step a :: later) =
    w.answers before ++ (w.after before).ask a :: ((w.after before).next (.step a)).answers later := by
  induction before generalizing w with
  | nil => rfl
  | cons v before ih =>
    cases v with
    | step b => exact congrArg (w.ask b :: ·) (ih _)
    | overwrite content => exact ih _

/-! ## Whole lives -/

/-- The life of a handle to an expression, from a scene on in which it has just been made. -/
structure Lifetime (text : Text) (e : Expr) (w : Scene) : Prop where
  /-- Every answer is given in the state that the events before it have led to. -/
  answers : ∀ before a later, w.answers (before ++ .step a :: later) =
    w.answers before ++ (w.after before).ask a :: ((w.after before).next (.step a)).answers later
  overwrites : ∀ events, w.answers events = w.session.run (events.filterMap Event.step?)
  /-- Until the handle is closed. -/
  held : ∀ events, events.any Event.closes = false →
    (w.after events).ask .source = .text text ∧ (w.after events).ask .expr = .expr e ∧
    (w.after events).ask .isReleased = .flag false ∧
    (w.after events).ask .shown = .text ("Spdx(".toList ++ Text.quoted text ++ [')'])
  /-- From then on. -/
  gone : ∀ events, events.any Event.closes = true →
    (w.after events).ask .source = .released ∧ (w.after events).ask .expr = .released ∧
    (w.after events).ask .isReleased = .flag true ∧
    (w.after events).ask .shown = .text "Spdx(<released>)".toList ∧
    ∀ more, (w.after (events ++ more)).session = (w.after events).session
  /-- Source and expression are there together. -/
  together : ∀ events, (w.after events).ask .source = .released ↔ (w.after events).ask .expr = .released
  /-- An expression remembered in time is remembered forever, and no other is. -/
  remembered : ∀ before later, before.any Event.closes = false →
    (w.after (before ++ .step .keep :: later)).ask .kept = .expr e
  faithful : ∀ events, (w.after events).ask .kept = .nothing ∨ (w.after events).ask .kept = .expr e

theorem lifetime (h : w.session.IsOpen text e) : Lifetime text e w where
  answers before a later := w.answers_split a before later
  overwrites := w.answers_eq
  held events hevents := by
    have hopen := (after_open h hevents).handle
    simp [ask, Session.step, Handle.isReleased, Handle.shown, hopen]
  gone events hevents := by
    have hclosed := after_closed h hevents
    simp [ask, Session.step, Handle.isReleased, Handle.shown, hclosed.handle, after_append,
      session_after_closed hclosed]
  together events := by
    rcases open_or_closed h events with hw | hw <;> simp [ask, Session.step, hw.handle]
  remembered before later hbefore := by
    have hopen := after_open h hbefore
    have hkept : ((w.after before).next (.step .keep)).session.kept = some e := by
      simp [next, Session.step, hopen.handle]
    have hlater := kept_after (hopen.step (a := .keep) rfl) hkept later
    rw [after_append]
    exact congrArg (·.elim Answer.nothing Answer.expr) hlater
  faithful events := by
    have hkept : (w.after events).session.Remembers e := (open_or_closed h events).elim (·.kept) (·.kept)
    rcases hkept with hkept | hkept <;> simp [ask, Session.step, hkept]

end Scene

/-- What a handle is made from holds this text, as it is or encoded. -/
def Input.Holds (buffer : Bytes) (text : Text) : Input → Prop
  | .text t => t = text
  | .bytes raw => raw = Utf8.encode text
  | .buffer => buffer = Utf8.encode text
  | .view places => viewed buffer places = Utf8.encode text

/-- Whatever a text comes in, it makes the same handle. -/
theorem make_eq_ofText [Grammar.Stack] {input : Input} {buffer : Bytes} (h : input.Holds buffer text)
    (maxDepth : Option Int) :
    make buffer maxDepth input = ofText text maxDepth := by
  cases input with
  | text t => rw [make, show t = text from h]
  | bytes raw => rw [make, show raw = Utf8.encode text from h, ofBytes_encode]
  | buffer => rw [make, show buffer = Utf8.encode text from h, ofBytes_encode]
  | view places => rw [make, show viewed buffer places = Utf8.encode text from h, ofBytes_encode]

/-- **A handle owns what it was made from, for its whole life.**  A text makes the same handle as itself, as bytes, as
the content of a buffer and as a part of one.  A text that is refused makes none, and the error is the parser's.  Any
other makes a handle that answers with the text and its expression until it is first released or left, and with neither
from then on, whatever its caller does in between and however often the buffer is overwritten. -/
theorem owned_for_life [Grammar.Stack] {input : Input} {buffer : Bytes} (h : input.Holds buffer text)
    (maxDepth : Option Int) :
    make buffer maxDepth input = ofText text maxDepth ∧
    (∀ f, Grammar.parse text maxDepth = .error f → make buffer maxDepth input = .error f) ∧
    ∀ e, Grammar.parse text maxDepth = .ok e → ∃ made, make buffer maxDepth input = .ok made ∧
      Scene.Lifetime text e ⟨buffer, ⟨made, none⟩⟩ := by
  have hmake := make_eq_ofText h maxDepth
  refine ⟨hmake, fun f hf => ?_, fun e he => ⟨⟨some text, some e⟩, ?_, Scene.lifetime ⟨rfl, .inl rfl⟩⟩⟩
  · rw [hmake, ofText, hf]
    rfl
  · rw [hmake, ofText, he]
    rfl

theorem owned_for_life_view_of_overwritten_buffer :
    letI := Grammar.Stack.least
    let buffer := Utf8.encode "[MIT OR ISC]".toList
    let input := Input.view (List.range' 1 10)
    let e := Expr.or (.simple (.id "MIT".toList false)) (.simple (.id "ISC".toList false))
    let late : List Event := [.step .enter, .overwrite [0], .step .leave, .step .keep, .step .release]
    input.Holds buffer "MIT OR ISC".toList ∧ ∃ made, make buffer none input = .ok made ∧
      ∀ before, before.any Event.closes = false →
        Scene.ask (Scene.after ⟨buffer, ⟨made, none⟩⟩ (before ++ .step .keep :: late)) .kept = .expr e := by
  let _ := Grammar.Stack.least
  intro buffer input e late
  have hinput : input.Holds buffer "MIT OR ISC".toList := by
    show viewed buffer (List.range' 1 10) = Utf8.encode "MIT OR ISC".toList
    decide +kernel
  obtain ⟨-, -, hparsed⟩ := owned_for_life hinput none
  obtain ⟨made, hmade, hlife⟩ := hparsed e (toOption_eq_some_iff.1 (by decide +kernel))
  exact ⟨hinput, made, hmade, fun before => hlife.remembered before late⟩

end Handle
end Licensing
