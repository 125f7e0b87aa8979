import Licensing.Proofs.Parser.Parallel
import Licensing.Proofs.Token.Partition
/-!
# Where parsers stop and fail

A parser stops where it began or behind one of the tokens ahead, and fails inside of one of them or at the end of the
source (`InBounds`).  A parser that sees words only does so: its answer is parallel to itself.  What does not follow
from that is where it fails for want of input, which is at the end only (`StarvesAtEnd`); every combinator keeps this.
-/
namespace Licensing

namespace Cursor

variable {c rest : Cursor} {t : Token} {ts : List Token} {x y : Int}

/-- The end of the source, or a place in a token ahead, its end included. -/
def Reaches (c : Cursor) (x : Int) : Prop :=
  x = c.source.length ∨ ∃ t ∈ c.tokens, (t.start : Int) ≤ x ∧ x ≤ t.stop

theorem SamePlace.reaches {d : Cursor} (h : SamePlace c d x y) : c.Reaches x := by
  cases h with
  | ends => exact .inl rfl
  | @inside i k t u ht _ hk =>
    refine .inr ⟨t, List.mem_of_getElem? ht, by omega, ?_⟩
    have hstop : t.start + k ≤ t.stop := Nat.add_le_add_left hk.1 _
    omega

theorem bounds_of_mem_tokens (h : t ∈ c.tokens) : c.offset ≤ t.start ∧ t.start ≤ t.stop ∧ t.stop ≤ c.source.length := by
  have hpart : c.IsPartition c.tokens := isPartition_iff.2 rfl
  obtain ⟨hne, htext⟩ := hpart.text t h
  exact ⟨hpart.ahead t h, Nat.le_add_right _ _, stop_le_of_extract htext hne⟩

theorem Reaches.bounds (h : c.Reaches x) (hc : c.offset ≤ c.source.length) : c.offset ≤ x ∧ x ≤ c.source.length := by
  rcases h with rfl | ⟨t, ht, hstart, hstop⟩
  · exact ⟨by omega, Int.le_refl _⟩
  · have := bounds_of_mem_tokens ht
    omega

/-- Where reading tokens leads is the place behind the last of them. -/
theorem Passes.offset_eq (h : c.Passes ts rest) : rest.offset = c.offset ∨ ∃ t ∈ ts, rest.offset = t.stop := by
  induction h with
  | stay => exact .inl rfl
  | @next c mid rest t ts hn _ ih =>
    refine .inr ?_
    rcases ih with heq | ⟨u, hu, heq⟩
    · exact ⟨t, List.mem_cons_self, heq.trans (congrArg Cursor.offset (next?_eq_some_iff.1 hn).1)⟩
    · exact ⟨u, List.mem_cons_of_mem t hu, heq⟩

end Cursor

namespace Parser

variable {α β : Type} {p : Parser α} {q : Parser β}

/-- A parser stops where it began or behind a token ahead, in the same source.  Where it fails, the error is about the
source, at a place ahead; for want of input it fails at the end only. -/
structure InBounds (p : Parser α) : Prop where
  done : ∀ c a rest, p c = .done a rest → rest.source = c.source ∧ c.offset ≤ rest.offset ∧
    (rest.offset = c.offset ∨ ∃ t ∈ c.tokens, rest.offset = t.stop)
  failed : ∀ c e, p c = .failed e → c.offset ≤ c.source.length → e.expression = c.source ∧
    c.offset ≤ e.position ∧ e.position ≤ c.source.length ∧
    ((∃ t ∈ c.tokens, (t.start : Int) ≤ e.position ∧ e.position ≤ t.stop) ∨ e.position = c.source.length) ∧
    (e.kind = .endOfInput → e.position = c.source.length)

/-- An error for want of input stands at the end of the source. -/
def StarvesAtEnd (p : Parser α) : Prop :=
  ∀ ⦃c : Cursor⦄ ⦃e : ParseError⦄, p c = .failed e → e.kind = .endOfInput → e.position = c.source.length

theorem SeesWords.forward (h : SeesWords p) : Forward p := by
  intro c rest a hp
  have hpar := h (rfl : c.words = c.words)
  rw [hp] at hpar
  cases hpar with
  | done hc => exact ⟨_, hc⟩

theorem SeesWords.reaches (h : SeesWords p) {c : Cursor} {e : ParseError} (hp : p c = .failed e) :
    e.expression = c.source ∧ c.Reaches e.position := by
  have hpar := h (rfl : c.words = c.words)
  rw [hp] at hpar
  cases hpar with
  | failed hf => exact ⟨hf.left, hf.place.reaches⟩

theorem SeesWords.inBounds (h : SeesWords p) (hs : StarvesAtEnd p) : InBounds p where
  done c a rest hp := by
    obtain ⟨ts, hts⟩ := h.forward hp
    have hplace : rest.offset = c.offset ∨ ∃ t ∈ c.tokens, rest.offset = t.stop := by
      refine hts.offset_eq.imp_right fun ⟨t, ht, heq⟩ => ⟨t, ?_, heq⟩
      rw [hts.tokens_eq]
      exact List.mem_append_left _ ht
    refine ⟨hts.source_eq, ?_, hplace⟩
    rcases hplace with heq | ⟨t, ht, heq⟩
    · omega
    · have := Cursor.bounds_of_mem_tokens ht
      omega
  failed c e hp hc := by
    obtain ⟨hsource, hplace⟩ := h.reaches hp
    obtain ⟨hlow, hhigh⟩ := hplace.bounds hc
    exact ⟨hsource, hlow, hhigh, hplace.symm, hs hp⟩

/-! ## Failing for want of input -/

theorem starvesAtEnd_pure (a : α) : StarvesAtEnd (pure a) := nofun

theorem starvesAtEnd_exhausted : StarvesAtEnd (exhausted : Parser α) := nofun

/-- The second part is tried in the source of the first. -/
theorem starvesAtEnd_bind {f : α → Parser β} (hf : Forward p) (hp : StarvesAtEnd p) (hq : ∀ a, StarvesAtEnd (f a)) :
    StarvesAtEnd (p.bind f) := by
  intro c e h hk
  unfold bind at h
  split at h
  · rename_i a mid ha
    obtain ⟨ts, hts⟩ := hf ha
    rw [hq a h hk, hts.source_eq]
  · rename_i e' he
    cases h
    exact hp he hk
  · cases h

theorem starvesAtEnd_map {f : α → β} (hf : Forward p) (hp : StarvesAtEnd p) : StarvesAtEnd (p.map f) :=
  starvesAtEnd_bind hf hp fun _ => starvesAtEnd_pure _

theorem starvesAtEnd_both (hf : Forward p) (hp : StarvesAtEnd p) (hg : Forward q) (hq : StarvesAtEnd q) :
    StarvesAtEnd (p.both q) :=
  starvesAtEnd_bind hf hp fun _ => starvesAtEnd_map hg hq

theorem starvesAtEnd_seq : ∀ {ps : List (Parser α)}, (∀ p ∈ ps, Forward p) → (∀ p ∈ ps, StarvesAtEnd p) →
    StarvesAtEnd (seq ps)
  | [], _, _ => starvesAtEnd_pure []
  | p :: ps, hf, hs => by
    obtain ⟨hfp, hfps⟩ := List.forall_mem_cons.1 hf
    obtain ⟨hsp, hsps⟩ := List.forall_mem_cons.1 hs
    exact starvesAtEnd_bind hfp hsp fun a => starvesAtEnd_map (forward_seq hfps) (starvesAtEnd_seq hfps hsps)

theorem starvesAtEnd_literal (word : Text) : StarvesAtEnd (literal word) := by
  intro c e h hk
  rcases literal_eq_failed_iff.1 h with ⟨-, rfl⟩ | ⟨t, rest, -, -, rfl⟩
  · rfl
  · cases hk

theorem starvesAtEnd_oneToken {check : Text → Except ParseError α} (hcheck : Identifier.PointsInside check) :
    StarvesAtEnd (oneToken check) := by
  intro c e h hk
  unfold oneToken at h
  split at h
  · cases h
    rfl
  · split at h
    · cases h
    · rename_i f hf
      cases h
      exact ((hcheck hf).kind_ne hk).elim

theorem starvesAtEnd_maybe (p : Parser α) : StarvesAtEnd (maybe p) := by
  intro c e h
  unfold maybe at h
  split at h <;> cases h

/-- The policy does not ask for more input where no alternative does. -/
def Policy.IsModest (policy : Policy) : Prop := ∀ detail, policy ≠ .replace .endOfInput detail

theorem choiceError_kind (kind : ErrorKind) (detail : Text) (c : Cursor) : (choiceError kind detail c).kind = kind := by
  unfold choiceError
  cases c.peek? <;> rfl

/-- The error that stands for a choice is one of the alternatives', or is not for want of input. -/
theorem report_position {policy : Policy} (hpolicy : policy.IsModest) {errors : List ParseError} {c : Cursor}
    (herrors : ∀ e ∈ errors, e.kind = .endOfInput → e.position = c.source.length)
    (hk : (policy.report errors c).kind = .endOfInput) : (policy.report errors c).position = c.source.length := by
  cases policy with
  | last =>
    cases errors with
    | nil => rfl
    | cons e es => exact herrors e List.mem_cons_self hk
  | replace kind detail =>
    have hchoice : (choiceError kind detail c).kind ≠ .endOfInput := by
      rw [choiceError_kind]
      rintro rfl
      exact hpolicy detail rfl
    cases errors with
    | nil => exact absurd hk hchoice
    | cons e es =>
      simp only [Policy.report] at hk ⊢
      split at hk
      · rename_i hall
        rw [if_pos hall]
        exact herrors e List.mem_cons_self hk
      · exact absurd hk hchoice

theorem starvesAtEnd_tryEach {policy : Policy} (hpolicy : policy.IsModest) {c : Cursor} {e : ParseError} :
    ∀ {ps : List (Parser α)} {errors : List ParseError}, (∀ p ∈ ps, StarvesAtEnd p) →
      (∀ f ∈ errors, f.kind = .endOfInput → f.position = c.source.length) → tryEach policy errors ps c = .failed e →
        e.kind = .endOfInput → e.position = c.source.length
  | [], errors, _, herrors, h, hk => by
    cases h
    exact report_position hpolicy herrors hk
  | p :: ps, errors, hps, herrors, h, hk => by
    obtain ⟨hp, hps⟩ := List.forall_mem_cons.1 hps
    unfold tryEach at h
    split at h
    · cases h
    · rename_i f hf
      exact starvesAtEnd_tryEach hpolicy hps (List.forall_mem_cons.2 ⟨hp hf, herrors⟩) h hk
    · cases h

theorem starvesAtEnd_oneOf {policy : Policy} (hpolicy : policy.IsModest) {ps : List (Parser α)}
    (hps : ∀ p ∈ ps, StarvesAtEnd p) : StarvesAtEnd (oneOf policy ps) :=
  fun _ _ => starvesAtEnd_tryEach hpolicy hps (List.forall_mem_nil _)

end Parser
end Licensing
