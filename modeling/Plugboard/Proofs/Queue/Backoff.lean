import Mathlib.Algebra.Group.Nat.Defs
import Mathlib.Order.MinMax
import Plugboard.Queue.Timed

/-!
# The length of a backoff

A duration is held in two words, one of whole seconds and one of the nanoseconds beyond them, and
the power of two by which a backoff grows is held in a third.  Here the backoff is calculated on
these words, each step with the check that its result fits.  No step fails, and the words that
come out are those of the backoff as a number of nanoseconds.

As a number, the backoff is the base doubled with each retry, up to five minutes.  Only the word
of the power can be too small for that: where the power does not fit, a base of less than seventy
nanoseconds is multiplied by less than the power, and the product is not at five minutes yet.
-/

namespace Plugboard

namespace Duration

/-- A duration as it is held: whole seconds, and the nanoseconds beyond them. -/
structure Words where
  seconds : BitVec 64
  fraction : BitVec 32
  deriving DecidableEq

def words (duration : Duration) : Words :=
  ⟨.ofNat 64 duration.seconds, .ofNat 32 duration.fraction⟩

/-- The result of a step as a word of so many bits, if it fits. -/
def word? (bits result : Nat) : Option (BitVec bits) :=
  if result < 2 ^ bits then some (.ofNat bits result) else none

/-- The power of two before a retry, or the largest word. -/
def growth (attempt : UInt32) : BitVec 32 :=
  (word? 32 (2 ^ (attempt.toNat - 1))).getD (.allOnes 32)

namespace Words

/-- The product.  The nanoseconds have to stay within a word when they are multiplied, and the
whole seconds among them are carried; the longest duration stands for seconds that do not fit. -/
def times? (words : Words) (factor : BitVec 32) : Option Words := do
  let nanoseconds ← word? 64 (words.fraction.toNat * factor.toNat)
  let fraction ← word? 32 (nanoseconds.toNat % perSecond)
  let seconds? := do
    let seconds ← word? 64 (words.seconds.toNat * factor.toNat)
    word? 64 (seconds.toNat + nanoseconds.toNat / perSecond)
  return match seconds? with
    | some seconds => ⟨seconds, fraction⟩
    | none => longest.words

/-- The shorter one: seconds are compared first. -/
def shorter (left right : Words) : Words :=
  if left.seconds < right.seconds ∨
      left.seconds = right.seconds ∧ left.fraction ≤ right.fraction then left
  else right

/-- The backoff, unless a step does not fit its word. -/
def backoff? (base : Words) (attempt : UInt32) : Option Words := do
  let grown ← base.times? (growth attempt)
  return grown.shorter longestBackoff.words

end Words

/-! ## Words of a duration -/

variable {bits result : Nat}

theorem word?_of_lt (hfits : result < 2 ^ bits) :
    word? bits result = some (.ofNat bits result) :=
  if_pos hfits

theorem word?_of_le (hlarge : 2 ^ bits ≤ result) : word? bits result = none :=
  if_neg (Nat.not_lt.mpr hlarge)

@[simp]
theorem toNat_seconds_words (duration : Duration) :
    duration.words.seconds.toNat = duration.seconds :=
  (BitVec.toNat_ofNat _ _).trans (Nat.mod_eq_of_lt duration.seconds_lt)

@[simp]
theorem toNat_fraction_words (duration : Duration) :
    duration.words.fraction.toNat = duration.fraction := by
  have hfits : duration.fraction < 2 ^ 32 := duration.fraction_lt.trans (by decide)
  exact (BitVec.toNat_ofNat _ _).trans (Nat.mod_eq_of_lt hfits)

/-! ## Steps of the calculation -/

theorem toNat_growth (attempt : UInt32) :
    (growth attempt).toNat = Nat.min (Nat.pow 2 (attempt.toNat - 1)) (Nat.pow 2 32 - 1) := by
  rw [growth]
  rcases Nat.lt_or_ge (2 ^ (attempt.toNat - 1)) (2 ^ 32) with hfits | hlarge
  · rw [word?_of_lt hfits, Option.getD_some, BitVec.toNat_ofNat, Nat.mod_eq_of_lt hfits]
    exact (Nat.min_eq_left (Nat.le_pred_of_lt hfits)).symm
  · rw [word?_of_le hlarge, Option.getD_none, BitVec.toNat_allOnes]
    exact (Nat.min_eq_right ((Nat.pred_le _).trans hlarge)).symm

/-- In a product the seconds of the duration stay whole; only the nanoseconds beyond them can give
seconds to carry. -/
theorem nanoseconds_mul (duration : Duration) (factor : Nat) :
    duration.nanoseconds * factor =
      duration.fraction * factor + duration.seconds * factor * perSecond := by
  calc
    duration.nanoseconds * factor =
        (duration.seconds * perSecond + duration.fraction) * factor := by
      rw [seconds_mul_add_fraction]
    _ = duration.fraction * factor + duration.seconds * factor * perSecond := by
      rw [Nat.add_mul, Nat.mul_right_comm, Nat.add_comm]

/-- A sum fits only if its first part does, which is why that may be checked before. -/
theorem word?_add (bits first second : Nat) :
    ((word? bits first).bind fun word => word? bits (word.toNat + second)) =
      word? bits (first + second) := by
  rcases Nat.lt_or_ge first (2 ^ bits) with hfits | hlarge
  · rw [word?_of_lt hfits, Option.bind_some, BitVec.toNat_ofNat, Nat.mod_eq_of_lt hfits]
  · rw [word?_of_le hlarge, Option.bind_none, word?_of_le (Nat.le_add_right_of_le hlarge)]

theorem words_ofNanoseconds (nanoseconds : Nat) :
    (ofNanoseconds nanoseconds).words =
      match word? 64 (nanoseconds / perSecond) with
      | some seconds => ⟨seconds, .ofNat 32 (nanoseconds % perSecond)⟩
      | none => longest.words := by
  have hsecond : 0 < perSecond := by decide
  rw [ofNanoseconds]
  split
  · rename_i hfits
    rw [word?_of_lt ((Nat.div_lt_iff_lt_mul hsecond).mpr hfits)]
    rfl
  · rename_i hlarge
    rw [word?_of_le ((Nat.le_div_iff_mul_le hsecond).mpr (Nat.not_lt.mp hlarge))]

/-- Words are multiplied as durations are, up to the longest one. -/
theorem times?_words (base : Duration) (factor : BitVec 32) :
    base.words.times? factor = some (base.saturatingMul factor.toNat).words := by
  have hsecond : 0 < perSecond := by decide
  have hnanoseconds : base.fraction * factor.toNat < 2 ^ 64 := by
    calc
      base.fraction * factor.toNat < perSecond * 2 ^ 32 :=
        Nat.mul_lt_mul'' base.fraction_lt factor.isLt
      _ < 2 ^ 64 := by decide
  have hfraction : base.fraction * factor.toNat % perSecond < 2 ^ 32 :=
    (Nat.mod_lt _ hsecond).trans (by decide)
  have hseconds : base.nanoseconds * factor.toNat / perSecond =
      base.seconds * factor.toNat + base.fraction * factor.toNat / perSecond := by
    rw [nanoseconds_mul, Nat.add_mul_div_right _ _ hsecond, Nat.add_comm]
  have hrest : base.nanoseconds * factor.toNat % perSecond =
      base.fraction * factor.toNat % perSecond := by
    rw [nanoseconds_mul, Nat.add_mul_mod_self_right]
  -- The two checks of the seconds are one check of their sum, and with what is carried that is
  -- the check of the whole product.
  rw [Words.times?, toNat_fraction_words, toNat_seconds_words, word?_of_lt hnanoseconds]
  simp only [Option.bind_eq_bind, Option.bind_some, BitVec.toNat_ofNat,
    Nat.mod_eq_of_lt hnanoseconds, word?_of_lt hfraction, word?_add]
  rw [saturatingMul, words_ofNanoseconds, hseconds, hrest]
  rfl

/-- Seconds weigh more than any nanoseconds beyond them. -/
theorem nanoseconds_le_iff {left right : Duration} :
    left.nanoseconds ≤ right.nanoseconds ↔
      left.seconds < right.seconds ∨
        left.seconds = right.seconds ∧ left.fraction ≤ right.fraction := by
  have hsecond : perSecond = 1000000000 := rfl
  have hleft := left.fraction_lt
  have hright := right.fraction_lt
  rw [← left.seconds_mul_add_fraction, ← right.seconds_mul_add_fraction]
  rw [hsecond] at hleft hright ⊢
  omega

theorem shorter_words (left right : Duration) :
    left.words.shorter right.words = (left.min right).words := by
  rw [Words.shorter, Duration.min, apply_ite words]
  apply if_congr
  · rw [nanoseconds_le_iff, BitVec.lt_def, BitVec.le_def, ← BitVec.toNat_inj]
    simp only [toNat_seconds_words, toNat_fraction_words]
  · rfl
  · rfl

/-- No step of the calculation leaves its word. -/
theorem backoff?_words (base : Duration) (attempt : UInt32) :
    base.words.backoff? attempt = some (base.backoff attempt.toNat).words := by
  rw [Words.backoff?, times?_words, toNat_growth]
  exact congrArg some (shorter_words _ _)

end Duration

namespace Backoff

open Duration (perSecond)

variable {base longer : Duration} {attempt later : Nat}

/-! ## The number of nanoseconds -/

/-- No product that is cut to the longest duration is below five minutes. -/
theorem nanoseconds_eq (base : Duration) (attempt : Nat) :
    (base.backoff attempt).nanoseconds =
      min (base.nanoseconds * min (2 ^ (attempt - 1)) (2 ^ 32 - 1)) (300 * perSecond) := by
  have hlongest : 300 * perSecond ≤ Duration.longest.nanoseconds := by decide
  calc
    (base.backoff attempt).nanoseconds =
        min (min (base.nanoseconds * min (2 ^ (attempt - 1)) (2 ^ 32 - 1))
          Duration.longest.nanoseconds) (300 * perSecond) := by
      rw [Duration.backoff, Duration.nanoseconds_min, Duration.saturatingMul,
        Duration.nanoseconds_ofNanoseconds]
      rfl
    _ = min (base.nanoseconds * min (2 ^ (attempt - 1)) (2 ^ 32 - 1)) (300 * perSecond) := by
      rw [min_assoc, min_eq_right hlongest]

/-- Later retries wait no less long. -/
theorem nanoseconds_mono_attempt (hlater : attempt ≤ later) :
    (base.backoff attempt).nanoseconds ≤ (base.backoff later).nanoseconds := by
  rw [nanoseconds_eq, nanoseconds_eq]
  apply min_le_min_right
  apply Nat.mul_le_mul_left
  apply min_le_min_right
  apply Nat.pow_le_pow_right Nat.zero_lt_two
  exact Nat.sub_le_sub_right hlater 1

/-- Longer bases wait no less long. -/
theorem nanoseconds_mono_base (hlonger : base.nanoseconds ≤ longer.nanoseconds) :
    (base.backoff attempt).nanoseconds ≤ (longer.backoff attempt).nanoseconds := by
  rw [nanoseconds_eq, nanoseconds_eq]
  apply min_le_min_right
  exact Nat.mul_le_mul_right _ hlonger

/-- A power beyond its word is cut to the largest word.  That makes no difference to a base of
seventy nanoseconds, which is at five minutes all the same, but a shorter one is not yet there. -/
theorem cut_eq_exact_iff {nanoseconds power : Nat} (hbeyond : 2 ^ 32 ≤ power) :
    min (nanoseconds * (2 ^ 32 - 1)) (300 * perSecond) =
        min (nanoseconds * power) (300 * perSecond) ↔
      70 ≤ nanoseconds ∨ nanoseconds = 0 := by
  have hcap : 300 * perSecond = 300000000000 := rfl
  have hpower : nanoseconds * 2 ^ 32 ≤ nanoseconds * power := Nat.mul_le_mul_left _ hbeyond
  constructor
  · intro hexact
    by_contra hshort
    have hcut : nanoseconds * (2 ^ 32 - 1) < 300 * perSecond := by omega
    have hless : nanoseconds * (2 ^ 32 - 1) < nanoseconds * power := by omega
    rw [min_eq_left hcut.le] at hexact
    exact (lt_min hless hcut).ne hexact
  · rintro (hlong | rfl)
    · have hcut : 300 * perSecond ≤ nanoseconds * (2 ^ 32 - 1) := by omega
      have hexact : 300 * perSecond ≤ nanoseconds * power := by omega
      rw [min_eq_right hcut, min_eq_right hexact]
    · rw [Nat.zero_mul, Nat.zero_mul]

theorem nanoseconds_eq_exact_iff :
    (base.backoff attempt).nanoseconds =
        min (base.nanoseconds * 2 ^ (attempt - 1)) (300 * perSecond) ↔
      attempt ≤ 32 ∨ 70 ≤ base.nanoseconds ∨ base.nanoseconds = 0 := by
  rw [nanoseconds_eq]
  rcases Nat.lt_or_ge 32 attempt with hbeyond | hwithin
  · have hpower : 2 ^ 32 ≤ 2 ^ (attempt - 1) :=
      Nat.pow_le_pow_right Nat.zero_lt_two (Nat.le_sub_one_of_lt hbeyond)
    rw [min_eq_right ((Nat.sub_le _ 1).trans hpower), cut_eq_exact_iff hpower]
    exact (or_iff_right (Nat.not_le.mpr hbeyond)).symm
  · have hpower : 2 ^ (attempt - 1) ≤ 2 ^ 31 :=
      Nat.pow_le_pow_right Nat.zero_lt_two (Nat.sub_le_sub_right hwithin 1)
    rw [min_eq_left (hpower.trans (by decide))]
    exact iff_of_true rfl (.inl hwithin)

/-- With a base of 69 nanoseconds the retry after the 32nd waits 69 nanoseconds too little. -/
example :
    ((Duration.ofNanoseconds 69).backoff 33).nanoseconds + 69 = 69 * 2 ^ 32 ∧
      69 * 2 ^ 32 < 300 * perSecond := by
  decide

/-- A backoff is calculated in words that no step leaves.  It is five minutes at most, and neither
a later retry nor a longer base makes it shorter.  It is exactly the base doubled with each retry,
up to five minutes, unless the power of two is beyond 32 bits and the base is from one to
sixty-nine nanoseconds long. -/
theorem doubles_up_to_cap (base : Duration) (attempt : UInt32) :
    base.words.backoff? attempt = some (base.backoff attempt.toNat).words ∧
      (base.backoff attempt.toNat).nanoseconds ≤ 300 * perSecond ∧
      (∀ later : UInt32, attempt ≤ later →
        (base.backoff attempt.toNat).nanoseconds ≤ (base.backoff later.toNat).nanoseconds) ∧
      (∀ longer : Duration, base.nanoseconds ≤ longer.nanoseconds →
        (base.backoff attempt.toNat).nanoseconds ≤ (longer.backoff attempt.toNat).nanoseconds) ∧
      ((base.backoff attempt.toNat).nanoseconds =
          min (base.nanoseconds * 2 ^ (attempt.toNat - 1)) (300 * perSecond) ↔
        attempt ≤ 32 ∨ 70 ≤ base.nanoseconds ∨ base.nanoseconds = 0) := by
  refine ⟨?words, ?capped, ?later, ?longer, ?exact⟩
  case words => exact Duration.backoff?_words base attempt
  case capped => exact Duration.backoff_le base attempt.toNat
  case later =>
    intro later hlater
    exact nanoseconds_mono_attempt (UInt32.le_iff_toNat_le.mp hlater)
  case longer =>
    intro longer hlonger
    exact nanoseconds_mono_base hlonger
  case exact =>
    rw [nanoseconds_eq_exact_iff, UInt32.le_iff_toNat_le]
    rfl

/-- The shortest base that every retry doubles exactly, at the first retry whose power is cut. -/
theorem doubles_up_to_cap_of_seventy_nanoseconds :
    let base := Duration.ofNanoseconds 70
    (33 : UInt32) ≤ 34 ∧ base.nanoseconds ≤ Duration.longest.nanoseconds ∧
      base.words.backoff? 33 = some Duration.longestBackoff.words ∧
      (base.backoff 33).nanoseconds = min (70 * 2 ^ 32) (300 * perSecond) ∧
      (base.backoff 33).nanoseconds ≤ (base.backoff 34).nanoseconds ∧
      (base.backoff 33).nanoseconds ≤ (Duration.longest.backoff 33).nanoseconds := by
  intro base
  have hlater : (33 : UInt32) ≤ 34 := by decide
  have hlonger : base.nanoseconds ≤ Duration.longest.nanoseconds := by decide
  have hcapped : base.backoff 33 = Duration.longestBackoff := by decide
  obtain ⟨hwords, -, hlaterWait, hlongerWait, hexact⟩ := doubles_up_to_cap base 33
  have hwait := hexact.mpr (.inr (.inl (by decide)))
  refine ⟨hlater, hlonger, ?_, hwait, hlaterWait 34 hlater, hlongerWait _ hlonger⟩
  rw [← hcapped]
  exact hwords

end Backoff
end Plugboard
