import Plugboard.Data.Float64
import Mathlib.Algebra.Order.Ring.Nat
import Mathlib.Data.Nat.Log

/-!
# Integers in floating point

Rounding keeps the order of integers, so none rounds to a number below that of a smaller one.  It
may take away the difference between two of them: up to `2^53` every integer is a floating-point
number of its own, while beyond it neighbours can share one.
-/

namespace Plugboard
namespace Float64

/-! ## Whole quotients -/

/-- Dividing to even goes to one of the two neighbours. -/
theorem divideToEven_eq_or (numerator denominator : Nat) :
    divideToEven numerator denominator = numerator / denominator ∨
      divideToEven numerator denominator = numerator / denominator + 1 := by
  unfold divideToEven
  dsimp only
  split_ifs <;> simp

/-- Dividing to even keeps the order. -/
theorem divideToEven_mono {a b : Nat} (denominator : Nat) (hle : a ≤ b) :
    divideToEven a denominator ≤ divideToEven b denominator := by
  rcases (Nat.div_le_div_right hle : a / denominator ≤ b / denominator).lt_or_eq with hlt | hsame
  · have ha := divideToEven_eq_or a denominator
    have hb := divideToEven_eq_or b denominator
    omega
  · have hrest : a % denominator ≤ b % denominator := by
      have ha := Nat.div_add_mod a denominator
      have hb := Nat.div_add_mod b denominator
      rw [hsame] at ha
      omega
    unfold divideToEven
    dsimp only
    rw [hsame]
    split_ifs <;> omega

theorem divideToEven_of_dvd {numerator denominator : Nat} (hpositive : 0 < denominator)
    (hdvd : denominator ∣ numerator) :
    divideToEven numerator denominator = numerator / denominator := by
  simp [divideToEven, Nat.mod_eq_zero_of_dvd hdvd, hpositive]

/-! ## Binades -/

/-- How often a number of units is halved to fit the significand. -/
def binade (units : Nat) : Nat := Nat.log2 units - 52

theorem binade_mono {a b : Nat} (hle : a ≤ b) : binade a ≤ binade b := by
  simp only [binade, Nat.log2_eq_log_two]
  exact Nat.sub_le_sub_right (Nat.log_mono_right hle) 52

theorem div_binade_lt (units : Nat) : units / 2 ^ binade units < 2 ^ 53 := by
  rw [Nat.div_lt_iff_lt_mul (Nat.two_pow_pos _)]
  calc units < 2 ^ (Nat.log2 units + 1) := Nat.lt_log2_self
    _ ≤ 2 ^ (53 + binade units) := Nat.pow_le_pow_right (by decide) (by unfold binade; omega)
    _ = 2 ^ 53 * 2 ^ binade units := Nat.pow_add ..

theorem le_div_binade {units : Nat} (hbinade : 0 < binade units) :
    2 ^ 52 ≤ units / 2 ^ binade units := by
  have hlog : 52 + binade units = Nat.log2 units := by
    unfold binade at hbinade ⊢
    omega
  have hunits : units ≠ 0 := by
    rintro rfl
    exact absurd hbinade (by decide)
  rw [Nat.le_div_iff_mul_le (Nat.two_pow_pos _)]
  calc 2 ^ 52 * 2 ^ binade units = 2 ^ Nat.log2 units := by rw [← Nat.pow_add, hlog]
    _ ≤ units := Nat.log2_self_le hunits

/-- The magnitude of a number of units before it is cut off at the infinities. -/
def unboundedMagnitude (units : Nat) : Nat :=
  binade units * 2 ^ 52 + divideToEven units (2 ^ binade units)

theorem roundMagnitude_one (units : Nat) :
    roundMagnitude units 1 = min infiniteMagnitude (unboundedMagnitude units) := by
  rw [roundMagnitude, Nat.div_one, Nat.one_mul]
  rfl

theorem unboundedMagnitude_mono {a b : Nat} (hle : a ≤ b) :
    unboundedMagnitude a ≤ unboundedMagnitude b := by
  rcases (binade_mono hle).lt_or_eq with hlt | hsame
  · -- the magnitudes of a binade end before those of the next one begin
    have ha := divideToEven_eq_or a (2 ^ binade a)
    have hb := divideToEven_eq_or b (2 ^ binade b)
    have hlast := div_binade_lt a
    have hfirst := le_div_binade (Nat.zero_lt_of_lt hlt)
    unfold unboundedMagnitude
    omega
  · rw [unboundedMagnitude, unboundedMagnitude, hsame]
    exact Nat.add_le_add_left (divideToEven_mono _ hle) _

/-- Rounding keeps the order of magnitudes. -/
theorem roundMagnitude_mono {a b : Nat} (hle : a ≤ b) :
    roundMagnitude a 1 ≤ roundMagnitude b 1 := by
  have hmono := unboundedMagnitude_mono hle
  rw [roundMagnitude_one, roundMagnitude_one]
  omega

/-- A number of units with no bit below the significand loses nothing. -/
theorem unitsOfMagnitude_roundMagnitude {units : Nat} (hbinade : binade units < 2045)
    (hdvd : 2 ^ binade units ∣ units) : unitsOfMagnitude (roundMagnitude units 1) = units := by
  have hexact := Nat.div_mul_cancel hdvd
  have hlast := div_binade_lt units
  have hfirst := @le_div_binade units
  rw [roundMagnitude_one, unboundedMagnitude, divideToEven_of_dvd (Nat.two_pow_pos _) hdvd]
  generalize units / 2 ^ binade units = significand at *
  generalize binade units = binade at *
  have hinside : binade * 2 ^ 52 + significand < infiniteMagnitude := by
    have : infiniteMagnitude = 2047 * 2 ^ 52 := rfl
    omega
  rw [min_eq_right hinside.le, unitsOfMagnitude]
  simp only [Nat.pow_eq]
  split
  · obtain rfl : binade = 0 := by omega
    omega
  · have : (binade * 2 ^ 52 + significand) / 2 ^ 52 - 1 = binade := by omega
    have : 2 ^ 52 + (binade * 2 ^ 52 + significand) % 2 ^ 52 = significand := by omega
    simp only [*]

/-! ## The number of an integer -/

def magnitudeOfInt (value : Int) : Nat := roundMagnitude (value.natAbs * unitsPerOne) 1

theorem ofInt_eq (value : Int) :
    ofInt value = ofMagnitude (decide (value < 0)) (magnitudeOfInt value) := rfl

theorem magnitudeOfInt_le (value : Int) : magnitudeOfInt value ≤ infiniteMagnitude :=
  Nat.min_le_left _ _

theorem magnitudeOfInt_mono {a b : Int} (hle : a.natAbs ≤ b.natAbs) :
    magnitudeOfInt a ≤ magnitudeOfInt b :=
  roundMagnitude_mono (Nat.mul_le_mul_right _ hle)

theorem magnitudeOfInt_pos {value : Int} (hvalue : value ≠ 0) : 0 < magnitudeOfInt value :=
  calc 0 < magnitudeOfInt 1 := by decide +kernel
    _ ≤ magnitudeOfInt value := magnitudeOfInt_mono (Int.natAbs_pos.mpr hvalue)

theorem toNat_bits_ofInt (value : Int) :
    (ofInt value).bits.toNat =
      if value < 0 then 2 ^ 63 + magnitudeOfInt value else magnitudeOfInt value := by
  have hle : magnitudeOfInt value ≤ 2047 * 2 ^ 52 := magnitudeOfInt_le value
  rw [ofInt_eq, ofMagnitude, UInt64.toNat_ofNat']
  simp only [decide_eq_true_eq, Nat.pow_eq]
  split <;> omega

theorem negative_ofInt (value : Int) : (ofInt value).negative = decide (value < 0) := by
  have hle : magnitudeOfInt value ≤ 2047 * 2 ^ 52 := magnitudeOfInt_le value
  rw [negative, toNat_bits_ofInt, decide_eq_decide, Nat.pow_eq]
  split <;> omega

theorem magnitude_ofInt (value : Int) : (ofInt value).magnitude = magnitudeOfInt value := by
  have hle : magnitudeOfInt value ≤ 2047 * 2 ^ 52 := magnitudeOfInt_le value
  rw [magnitude, toNat_bits_ofInt, Nat.pow_eq]
  split <;> omega

@[simp]
theorem isNaN_ofInt (value : Int) : (ofInt value).isNaN = false := by
  rw [isNaN, magnitude_ofInt, decide_eq_false_iff_not, Nat.not_lt]
  exact magnitudeOfInt_le value

theorem order_ofInt (value : Int) :
    (ofInt value).order =
      if value < 0 then -(magnitudeOfInt value : Int) else magnitudeOfInt value := by
  simp only [order, negative_ofInt, magnitude_ofInt, decide_eq_true_eq]

/-- Rounded integers are in the order of the exact ones. -/
theorem order_ofInt_mono {a b : Int} (hle : a ≤ b) : (ofInt a).order ≤ (ofInt b).order := by
  rw [order_ofInt, order_ofInt]
  split_ifs with ha hb
  · have := magnitudeOfInt_mono (by omega : b.natAbs ≤ a.natAbs)
    omega
  · omega
  · omega
  · have := magnitudeOfInt_mono (by omega : a.natAbs ≤ b.natAbs)
    omega

/-- No integer rounds to a negative zero, so the order tells all numbers of integers apart. -/
theorem order_ofInt_inj {a b : Int} :
    (ofInt a).order = (ofInt b).order ↔ ofInt a = ofInt b := by
  refine ⟨fun hsame => ?_, congrArg order⟩
  have ha := @magnitudeOfInt_pos a
  have hb := @magnitudeOfInt_pos b
  simp only [order_ofInt] at hsame
  have hsign : a < 0 ↔ b < 0 := by
    split_ifs at hsame <;> omega
  have hmagnitude : magnitudeOfInt a = magnitudeOfInt b := by
    split_ifs at hsame <;> omega
  rw [ofInt_eq, ofInt_eq, hmagnitude, decide_eq_decide.mpr hsign]

/-- The greater of two integers rounds to the greater number or to the same one. -/
theorem order_ofInt_le_iff {a b : Int} :
    (ofInt a).order ≤ (ofInt b).order ↔ a ≤ b ∨ ofInt a = ofInt b := by
  constructor
  · intro hle
    rcases le_total a b with hab | hba
    · exact .inl hab
    · exact .inr (order_ofInt_inj.mp (hle.antisymm (order_ofInt_mono hba)))
  · rintro (hle | hsame)
    · exact order_ofInt_mono hle
    · rw [hsame]

theorem lt_ofInt (a b : Int) :
    (ofInt a).lt (ofInt b) = decide ((ofInt a).order < (ofInt b).order) := by
  simp [lt]

/-! ## Integers that are not rounded -/

theorem binade_of_small {value : Nat} (hsmall : value ≤ 2 ^ 53) :
    binade (value * unitsPerOne) ≤ 1075 ∧
      2 ^ binade (value * unitsPerOne) ∣ value * unitsPerOne := by
  have hbinade : binade (value * unitsPerOne) ≤ 1075 :=
    calc binade (value * unitsPerOne) ≤ binade (2 ^ 53 * unitsPerOne) :=
          binade_mono (Nat.mul_le_mul_right _ hsmall)
      _ = 1075 := by decide +kernel
  refine ⟨hbinade, ?_⟩
  rcases hbinade.lt_or_eq with hlt | hlast
  · refine Nat.dvd_mul_left_of_dvd ?_ value
    apply Nat.pow_dvd_pow
    exact Nat.le_of_lt_succ hlt
  · -- only the last of the integers reaches so far
    have hfirst : 2 ^ 52 * 2 ^ binade (value * unitsPerOne) ≤ value * unitsPerOne :=
      (Nat.le_div_iff_mul_le (Nat.two_pow_pos _)).mp (le_div_binade (by omega))
    rw [hlast] at hfirst
    have hlarge : 2 ^ 53 * unitsPerOne ≤ value * unitsPerOne :=
      calc 2 ^ 53 * unitsPerOne = 2 ^ 52 * 2 ^ 1075 := by decide +kernel
        _ ≤ value * unitsPerOne := hfirst
    rw [hlast, hsmall.antisymm (Nat.le_of_mul_le_mul_right hlarge (by decide +kernel))]
    exact ⟨2 ^ 52, by decide +kernel⟩

/-- Up to `2^53`, an integer is a floating-point number. -/
theorem units_ofInt {value : Int} (hsmall : value.natAbs ≤ 2 ^ 53) :
    (ofInt value).units = value * unitsPerOne := by
  obtain ⟨hbinade, hdvd⟩ := binade_of_small hsmall
  have hexact : unitsOfMagnitude (magnitudeOfInt value) = value.natAbs * unitsPerOne :=
    unitsOfMagnitude_roundMagnitude (by omega) hdvd
  rw [units, negative_ofInt, magnitude_ofInt, hexact, Int.natCast_mul, ← Int.neg_mul]
  simp only [decide_eq_true_eq]
  split_ifs with hnegative
  · rw [Int.ofNat_natAbs_of_nonpos hnegative.le, Int.neg_neg]
  · rw [Int.natAbs_of_nonneg (Int.not_lt.mp hnegative)]

/-- Up to `2^53` integers are told apart in floating point. -/
theorem ofInt_injOn : Set.InjOn ofInt {value | value.natAbs ≤ 2 ^ 53} := by
  intro a ha b hb hsame
  have hunits : a * unitsPerOne = b * unitsPerOne := by
    rw [← units_ofInt ha, ← units_ofInt hb, hsame]
  exact Int.eq_of_mul_eq_mul_right (by decide +kernel) hunits

end Float64
end Plugboard
