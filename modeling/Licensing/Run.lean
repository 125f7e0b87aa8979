import Licensing.Log
/-!
# Computations that log

A run ends in a value or a failure and has written events on the way, whichever it is.
-/
namespace Licensing

structure Run (ε α : Type) where
  events : List Log.Event
  result : Except ε α

namespace Run

variable {ε ε' α β : Type}

def pure (a : α) : Run ε α := ⟨[], .ok a⟩

def fail (e : ε) : Run ε α := ⟨[], .error e⟩

def ofExcept (r : Except ε α) : Run ε α := ⟨[], r⟩

def log (e : Log.Event) : Run ε Unit := ⟨[e], .ok ()⟩

def logAll (es : List Log.Event) : Run ε Unit := ⟨es, .ok ()⟩

def bind (r : Run ε α) (f : α → Run ε β) : Run ε β :=
  match r.result with
  | .ok a => ⟨r.events ++ (f a).events, (f a).result⟩
  | .error e => ⟨r.events, .error e⟩

instance : Monad (Run ε) where
  pure := Run.pure
  bind := Run.bind

def mapError (f : ε → ε') (r : Run ε α) : Run ε' α := ⟨r.events, r.result.mapError f⟩

/-! The result of a computation follows from the results of its steps; the log has no part in it. -/

theorem result_bind (r : Run ε α) (f : α → Run ε β) : (r >>= f).result = r.result >>= fun a => (f a).result := by
  show (Run.bind r f).result = _
  unfold Run.bind
  cases r.result <;> rfl

@[simp]
theorem result_bind_of_ok {r : Run ε α} {a : α} (h : r.result = .ok a) (f : α → Run ε β) :
    (r >>= f).result = (f a).result := by
  rw [result_bind, h]
  rfl

@[simp]
theorem result_bind_of_error {r : Run ε α} {e : ε} (h : r.result = .error e) (f : α → Run ε β) :
    (r >>= f).result = .error e := by
  rw [result_bind, h]
  rfl

@[simp]
theorem result_ofExcept (r : Except ε α) : (ofExcept r).result = r := rfl

@[simp]
theorem result_mapError (f : ε → ε') (r : Run ε α) : (r.mapError f).result = r.result.mapError f := rfl

end Run
end Licensing
