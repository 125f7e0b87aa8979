import Licensing.Moment
import Licensing.Number.Binary64
import Licensing.Text.Integer
import Licensing.Text.Printable
/-!
# Data values

What a configuration table, a document's metadata or a log line may hold.  The fields of a record keep their order.
Texts are those of the library unless another kind is named.
-/
namespace Licensing

inductive Value (σ : Type := Text)
  | null
  | bool (b : Bool)
  | int (n : Int)
  | float (x : Binary64)
  | text (t : σ)
  | moment (m : Moment)
  | list (vs : List (Value σ))
  | record (fields : List (σ × Value σ))
  deriving Inhabited, Repr

abbrev Fields (σ : Type := Text) := List (σ × Value σ)

variable {σ τ : Type}

namespace Fields

/-- Gives a field a value; a field that is there already keeps its place. -/
def put [DecidableEq σ] (key : σ) (v : Value σ) : Fields σ → Fields σ
  | [] => [(key, v)]
  | (k, w) :: fs => if k = key then (k, v) :: fs else (k, w) :: put key v fs

end Fields

namespace Value

def ofString (s : String) : Value := .text s.toList

/-! ## Equality -/

section Equality

variable [DecidableEq σ]

mutual

/-- Whether two values are the same. -/
def same : Value σ → Value σ → Bool
  | .null, .null => true
  | .bool a, .bool b => a == b
  | .int n, .int m => n == m
  | .float x, .float y => x == y
  | .text s, .text t => s == t
  | .moment m, .moment n => m == n
  | .list vs, .list ws => areSame vs ws
  | .record fs, .record gs => areFieldsSame fs gs
  | _, _ => false

def areSame : List (Value σ) → List (Value σ) → Bool
  | [], [] => true
  | v :: vs, w :: ws => same v w && areSame vs ws
  | _, _ => false

def areFieldsSame : List (σ × Value σ) → List (σ × Value σ) → Bool
  | [], [] => true
  | (k, v) :: fs, (j, w) :: gs => k == j && same v w && areFieldsSame fs gs
  | _, _ => false

end

mutual

theorem same_iff : ∀ v w : Value σ, same v w = true ↔ v = w
  | .null, w => by cases w <;> simp [same]
  | .bool _, w => by cases w <;> simp [same]
  | .int _, w => by cases w <;> simp [same]
  | .float _, w => by cases w <;> simp [same]
  | .text _, w => by cases w <;> simp [same]
  | .moment _, w => by cases w <;> simp [same]
  | .list vs, w => by cases w <;> simp [same, areSame_iff vs]
  | .record fs, w => by cases w <;> simp [same, areFieldsSame_iff fs]

theorem areSame_iff : ∀ vs ws : List (Value σ), areSame vs ws = true ↔ vs = ws
  | [], ws => by cases ws <;> simp [areSame]
  | v :: vs, ws => by cases ws <;> simp [areSame, same_iff v, areSame_iff vs]

theorem areFieldsSame_iff : ∀ fs gs : List (σ × Value σ), areFieldsSame fs gs = true ↔ fs = gs
  | [], gs => by cases gs <;> simp [areFieldsSame]
  | (_, v) :: fs, gs => by
    cases gs <;> simp [areFieldsSame, Prod.ext_iff, same_iff v, areFieldsSame_iff fs]

end

instance : DecidableEq (Value σ) := fun v w => decidable_of_iff (same v w = true) (same_iff v w)

end Equality

/-! ## Other texts -/

mutual

/-- The same value with other texts. -/
def map (f : σ → τ) : Value σ → Value τ
  | .null => .null
  | .bool b => .bool b
  | .int n => .int n
  | .float x => .float x
  | .text t => .text (f t)
  | .moment m => .moment m
  | .list vs => .list (mapItems f vs)
  | .record fs => .record (mapFields f fs)

def mapItems (f : σ → τ) : List (Value σ) → List (Value τ)
  | [] => []
  | v :: vs => v.map f :: mapItems f vs

def mapFields (f : σ → τ) : List (σ × Value σ) → List (τ × Value τ)
  | [] => []
  | (k, v) :: fs => (f k, v.map f) :: mapFields f fs

end

/-! ## Messages -/

/-- How a truth value or nothing is shown in a message. -/
def shownBool (b : Bool) : Text := if b then "True".toList else "False".toList

/-! How a value is shown in a message: texts in quotes, lists in brackets, records in braces. -/
section Shown

variable [Text.Quotable σ]

mutual

def shown : Value σ → Text
  | .null => "None".toList
  | .bool b => shownBool b
  | .int n => Text.ofInt n
  | .float x => x.render
  | .text t => Text.Quotable.quoted t
  | .moment m => m.shown
  | .list vs => '[' :: shownItems vs ++ [']']
  | .record fs => '\x7b' :: shownFields fs ++ ['\x7d']

def shownItems : List (Value σ) → Text
  | [] => []
  | [v] => v.shown
  | v :: vs => v.shown ++ ", ".toList ++ shownItems vs

def shownFields : List (σ × Value σ) → Text
  | [] => []
  | [(k, v)] => Text.Quotable.quoted k ++ ": ".toList ++ v.shown
  | (k, v) :: fs => Text.Quotable.quoted k ++ ": ".toList ++ v.shown ++ ", ".toList ++ shownFields fs

end

end Shown

/-! An integer with too many digits is not shown, and neither is what holds one. -/
mutual

def isShowable : Value → Bool
  | .int n => (Text.ofNat n.natAbs).length ≤ Text.maxDigits
  | .list vs => areShowable vs
  | .record fs => areFieldsShowable fs
  | _ => true

def areShowable : List Value → Bool
  | [] => true
  | v :: vs => v.isShowable && areShowable vs

def areFieldsShowable : List (Text × Value) → Bool
  | [] => true
  | (_, v) :: fs => v.isShowable && areFieldsShowable fs

end

/-- How a value is printed by itself: a text without quotes, and a moment in figures. -/
def printed : Value → Text
  | .text t => t
  | .moment m => m.printed
  | v => v.shown

def printed? (v : Value) : Option Text := if v.isShowable then some v.printed else none

end Value
end Licensing
