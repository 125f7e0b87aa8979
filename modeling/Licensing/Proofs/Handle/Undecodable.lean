import Licensing.Handle
import Licensing.Proofs.Text.Decoding
/-!
# Bytes that are no text

A handle takes bytes as well as a text.  Bytes that encode a text are that text; any others are refused at the character
that stands behind their longest front that encodes a text, and that character is the first one put in place of damage.
-/
namespace Licensing
namespace Handle

open Utf8 (encode decode decodeLossy replacement LongestFront Damaged)

/-- The error for bytes whose encoded front is this text. -/
def notText (raw : Bytes) (front : Text) : ParseError :=
  ⟨.illegalCharacter, decodeLossy raw, front.length,
    "invalid UTF-8 byte at offset ".toList ++ Text.ofNat (encode front).length⟩

theorem ofBytes_encode [Grammar.Stack] (s : Text) (maxDepth : Option Int) :
    ofBytes (encode s) maxDepth = ofText s maxDepth := by
  rw [ofBytes, Utf8.decode_encode]

theorem ofBytes_of_damaged [Grammar.Stack] {rest : Bytes} (h : Damaged rest) (s : Text) (maxDepth : Option Int) :
    ofBytes (encode s ++ rest) maxDepth = .error (notText (encode s ++ rest) s) := by
  obtain ⟨d, f, hd⟩ := Utf8.decode_of_damaged h s
  rw [ofBytes, hd]
  rfl

/-- The caret stands under the character at the position: both have the same number of characters in front of them. -/
theorem message_of_position {e : ParseError} {s after : Text} (he : e.expression = s ++ after)
    (hp : e.position = s.length) : ∃ top : Text, e.message =
      top ++ "\n  ".toList ++ (s ++ after) ++ "\n  ".toList ++ (List.replicate s.length ' ' ++ ['^']) := by
  unfold ParseError.message
  rw [he, hp, Int.toNat_natCast, Text.spaces, List.append_assoc _ (List.replicate _ _)]
  exact ⟨_, rfl⟩

/-- **Undecodable bytes are refused at the right character**, whatever is wrong with them.  Bytes that encode a text
make the handle that the text makes.  Any others have just one longest front that encodes a text: the error names its
bytes in the detail and its characters as the position, and there the shown expression goes on with U+FFFD. -/
theorem ofBytes_exact [Grammar.Stack] (raw : Bytes) (maxDepth : Option Int) :
    (∀ s, raw = encode s → ofBytes raw maxDepth = ofText s maxDepth) ∧
    ((∀ t, raw ≠ encode t) → ∃ s e after, LongestFront raw s ∧ (∀ t, LongestFront raw t → t = s) ∧
      decode (raw.take (encode s).length) = .ok s ∧ ofBytes raw maxDepth = .error e ∧ e.kind = .illegalCharacter ∧
      e.detail = "invalid UTF-8 byte at offset ".toList ++ Text.ofNat (encode s).length ∧ e.position = s.length ∧
      decodeLossy raw = s ++ replacement :: after ∧ e.expression = s ++ replacement :: after ∧
      ∃ top : Text, e.message = top ++ "\n  ".toList ++ (s ++ replacement :: after) ++ "\n  ".toList ++
        (List.replicate s.length ' ' ++ ['^'])) := by
  constructor
  · rintro s rfl
    exact ofBytes_encode s maxDepth
  · intro hraw
    obtain ⟨s, hs⟩ := Utf8.exists_longestFront raw
    obtain ⟨rest, rfl, hrest⟩ := hs.exists_damaged (hraw s)
    obtain ⟨after, hafter⟩ := Utf8.decodeLossy_of_damaged hrest s
    have hfront : decode ((encode s ++ rest).take (encode s).length) = .ok s := by
      rw [List.take_left, Utf8.decode_encode]
    exact ⟨s, notText (encode s ++ rest) s, after, hs, fun t ht => ht.unique hs, hfront,
      ofBytes_of_damaged hrest s maxDepth, rfl, rfl, rfl, hafter, hafter, message_of_position hafter rfl⟩

/-- The bytes of é and of a genuine U+FFFD, then those of a surrogate. -/
theorem ofBytes_exact_surrogate :
    letI := Grammar.Stack.least
    (∀ t, ([0xC3, 0xA9, 0xEF, 0xBF, 0xBD, 0xED, 0xA0, 0x80] : Bytes) ≠ encode t) ∧
    ∃ e, ofBytes [0xC3, 0xA9, 0xEF, 0xBF, 0xBD, 0xED, 0xA0, 0x80] none = .error e ∧ e.kind = .illegalCharacter ∧
      e.detail = "invalid UTF-8 byte at offset 5".toList ∧ e.position = 2 ∧
      e.expression = ['é', replacement, replacement, replacement, replacement] := by
  let _ := Grammar.Stack.least
  have hraw : ∀ t, ([0xC3, 0xA9, 0xEF, 0xBF, 0xBD, 0xED, 0xA0, 0x80] : Bytes) ≠ encode t := by
    intro t ht
    have hd : decode [0xC3, 0xA9, 0xEF, 0xBF, 0xBD, 0xED, 0xA0, 0x80] = .error ⟨2, 5, [0xED], .badContinuation⟩ := rfl
    rw [ht, Utf8.decode_encode] at hd
    cases hd
  obtain ⟨s, e, after, -, hunique, -, he, hkind, hdetail, hposition, hlossy, hexpression, -⟩ :=
    (ofBytes_exact [0xC3, 0xA9, 0xEF, 0xBF, 0xBD, 0xED, 0xA0, 0x80] none).2 hraw
  have hdamaged : Damaged [0xED, 0xA0, 0x80] := ⟨_, _, _, rfl⟩
  cases hunique ['é', replacement] (Utf8.longestFront_of_damaged hdamaged ['é', replacement])
  exact ⟨hraw, e, he, hkind, hdetail, hposition, hexpression.trans hlossy.symm⟩

end Handle
end Licensing
