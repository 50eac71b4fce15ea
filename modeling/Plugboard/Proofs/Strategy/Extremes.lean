import Plugboard.Proofs.Data.Rounding
import Plugboard.Proofs.Strategy.Sums
import Mathlib.Data.Int.ConditionallyCompleteOrder
import Mathlib.Data.List.MinMax
import Mathlib.Order.ConditionallyCompleteLattice.Basic

/-!
# Extremes of results

The smallest and the largest result are found by comparing numbers in floating point.  Integers
that round to the same number are all one to the comparison, and the first of them stays: the
integer picked is the extreme one up to rounding, and exactly so for integers that are not rounded.
-/

namespace Plugboard
namespace Reduction

/-- The integer is one of those given, and none of them lies beyond it. -/
structure IsExtreme (within : Int → Int → Prop) (integers : List Int) (picked : Int) : Prop where
  mem : picked ∈ integers
  most : ∀ n ∈ integers, within n picked

/-- The integer is one of those given, none of them rounds to a number beyond its own, and it is
the first of those that round to its own. -/
structure IsRoundedExtreme (within : Int → Int → Prop) (integers : List Int) (picked : Int) :
    Prop where
  mem : picked ∈ integers
  most : ∀ n ∈ integers, within n picked ∨ Float64.ofInt n = Float64.ofInt picked
  first : ∀ n ∈ integers, Float64.ofInt n = Float64.ofInt picked →
    integers.idxOf picked ≤ integers.idxOf n

/-- Null if there is no integer, else the extreme one. -/
inductive Picks (extreme : List Int → Int → Prop) : List Int → Value → Prop where
  | nothing : Picks extreme [] .null
  | integer {integers : List Int} {picked : Int} (hextreme : extreme integers picked) :
      Picks extreme integers (.ofInt picked)

theorem Picks.mono {extreme extreme' : List Int → Int → Prop} {integers : List Int} {value : Value}
    (hpicks : Picks extreme integers value)
    (himp : ∀ picked, extreme integers picked → extreme' integers picked) :
    Picks extreme' integers value := by
  cases hpicks with
  | nothing => exact .nothing
  | integer hextreme => exact .integer (himp _ hextreme)

/-- An integer that is extreme up to rounding is extreme among integers that are not rounded. -/
theorem IsRoundedExtreme.isExtreme {within : Int → Int → Prop} [Std.Refl within]
    {integers : List Int} {picked : Int} (hpicked : IsRoundedExtreme within integers picked)
    (hsmall : ∀ n ∈ integers, n.natAbs ≤ 2 ^ 53) : IsExtreme within integers picked where
  mem := hpicked.mem
  most n hn := by
    rcases hpicked.most n hn with hwithin | hsame
    · exact hwithin
    · rw [Float64.ofInt_injOn (hsmall n hn) (hsmall picked hpicked.mem) hsame]
      exact refl picked

/-! ## Picking by rank -/

/-- The comparison goes by a rank, which is that of the exact order but for integers that round to
the same number. -/
structure Ranks (beyond : Float64 → Float64 → Bool) (within : Int → Int → Prop)
    (rank : Int → Int) : Prop where
  beyond_eq : ∀ a b, beyond (.ofInt a) (.ofInt b) = decide (rank b < rank a)
  le_iff : ∀ a b, rank a ≤ rank b ↔ within a b ∨ Float64.ofInt a = Float64.ofInt b
  eq_iff : ∀ a b, rank a = rank b ↔ Float64.ofInt a = Float64.ofInt b

/-- The largest number is found by its place in the order. -/
theorem ranks_max :
    Ranks (fun candidate current => current.lt candidate) (· ≤ ·)
      (fun n => (Float64.ofInt n).order) where
  beyond_eq a b := Float64.lt_ofInt b a
  le_iff _ _ := Float64.order_ofInt_le_iff
  eq_iff _ _ := Float64.order_ofInt_inj

/-- The smallest number is found by its place in the opposite order. -/
theorem ranks_min :
    Ranks (fun candidate current => candidate.lt current) (· ≥ ·)
      (fun n => -(Float64.ofInt n).order) where
  beyond_eq a b := by rw [Float64.lt_ofInt, decide_eq_decide, Int.neg_lt_neg_iff]
  le_iff a b := by rw [Int.neg_le_neg_iff, Float64.order_ofInt_le_iff, eq_comm, ge_iff_le]
  eq_iff a b := by rw [Int.neg_inj, Float64.order_ofInt_inj]

section Ranked

variable {beyond : Float64 → Float64 → Bool} {within : Int → Int → Prop} {rank : Int → Int}

/-- A later integer is picked only if it ranks strictly higher. -/
theorem pick_ofInt (hranks : Ranks beyond within rank) (picked n : Int) :
    pick beyond (.ofInt picked) (.ofInt n) =
      if rank picked < rank n then .ofInt n else .ofInt picked := by
  change (if beyond (.ofInt n) (.ofInt picked) then Value.ofInt n else .ofInt picked) = _
  rw [hranks.beyond_eq]
  simp

/-- Picking one number after the other finds the first of the highest rank. -/
theorem foldl_pick_eq_argmax (hranks : Ranks beyond within rank) (integers : List Int) :
    (integers.map Number.integer).foldl
        (fun extreme number => pick beyond extreme (.number number)) .null =
      ((integers.argmax rank).map Value.ofInt).getD .null := by
  induction integers using List.reverseRecOn with
  | nil => rfl
  | append_singleton integers n ih =>
      rw [List.map_append, List.foldl_append, ih, List.argmax_concat]
      cases integers.argmax rank with
      | none => rfl
      | some picked =>
          refine (pick_ofInt hranks picked n).trans ?_
          dsimp only
          split_ifs <;> rfl

theorem argmax_eq_some_iff_isRoundedExtreme (hranks : Ranks beyond within rank)
    {integers : List Int} {picked : Int} :
    integers.argmax rank = some picked ↔ IsRoundedExtreme within integers picked := by
  rw [List.argmax_eq_some_iff]
  constructor
  · rintro ⟨hmem, hmost, hfirst⟩
    exact ⟨hmem, fun n hn => (hranks.le_iff n picked).mp (hmost n hn),
      fun n hn hsame => hfirst n hn ((hranks.eq_iff n picked).mpr hsame).ge⟩
  · rintro ⟨hmem, hmost, hfirst⟩
    have hle : ∀ n ∈ integers, rank n ≤ rank picked := fun n hn =>
      (hranks.le_iff n picked).mpr (hmost n hn)
    refine ⟨hmem, hle, fun n hn hge => hfirst n hn ?_⟩
    exact (hranks.eq_iff n picked).mp ((hle n hn).antisymm hge)

/-- A reduction that picks finds the extreme integer up to rounding. -/
theorem Ranks.picks (hranks : Ranks beyond within rank) (name : String) {results : List Value}
    {integers : List Int} (hnumbers : Value.numbers results = integers.map .integer) :
    Picks (IsRoundedExtreme within) integers
      ((Strategy.reduce ⟨name, .null, pick beyond⟩).aggregate results) := by
  have hignores (total value : Value) (hnone : value.asNumber? = none) :
      pick beyond total value = total := by
    rw [pick, Value.asFloat?, hnone, Option.map_none]
  rw [aggregate_eq_foldl_numbers _ hignores, hnumbers, foldl_pick_eq_argmax hranks]
  cases hextreme : integers.argmax rank with
  | none =>
      rw [List.argmax_eq_none.mp hextreme]
      exact .nothing
  | some picked => exact .integer ((argmax_eq_some_iff_isRoundedExtreme hranks).mp hextreme)

end Ranked

/-- Of results whose numbers are all integers, the one picked as the largest or the smallest is the
greatest or the least of them up to rounding, and null if there are none.  It is exactly the
greatest or the least one if no integer is beyond `2^53`. -/
theorem integer_extremes_up_to_rounding {results : List Value} {integers : List Int}
    (hnumbers : Value.numbers results = integers.map .integer) :
    (Picks (IsRoundedExtreme (· ≤ ·)) integers ((Strategy.reduce max).aggregate results) ∧
      Picks (IsRoundedExtreme (· ≥ ·)) integers ((Strategy.reduce min).aggregate results)) ∧
    ((∀ n ∈ integers, n.natAbs ≤ 2 ^ 53) →
      Picks (IsExtreme (· ≤ ·)) integers ((Strategy.reduce max).aggregate results) ∧
        Picks (IsExtreme (· ≥ ·)) integers ((Strategy.reduce min).aggregate results)) := by
  have hmax := ranks_max.picks "max" hnumbers
  have hmin := ranks_min.picks "min" hnumbers
  refine ⟨⟨hmax, hmin⟩, fun hsmall => ⟨?_, ?_⟩⟩
  · exact hmax.mono fun _ hpicked => hpicked.isExtreme hsmall
  · exact hmin.mono fun _ hpicked => hpicked.isExtreme hsmall

theorem integer_extremes_up_to_rounding_of_sample :
    Value.numbers [.ofInt 3, .null, .ofInt 7, .string "x", .ofInt (-2)] =
        [3, 7, -2].map .integer ∧
      (∀ n ∈ [3, 7, -2], Int.natAbs n ≤ 2 ^ 53) ∧
      Picks (IsExtreme (· ≤ ·)) [3, 7, -2]
        ((Strategy.reduce max).aggregate [.ofInt 3, .null, .ofInt 7, .string "x", .ofInt (-2)]) ∧
      Picks (IsExtreme (· ≥ ·)) [3, 7, -2]
        ((Strategy.reduce min).aggregate
          [.ofInt 3, .null, .ofInt 7, .string "x", .ofInt (-2)]) := by
  have hsmall : ∀ n ∈ [3, 7, -2], Int.natAbs n ≤ 2 ^ 53 := by decide
  exact ⟨rfl, hsmall, (integer_extremes_up_to_rounding rfl).2 hsmall⟩

/-- Beyond `2^53` the greater of two neighbours is missed, and so is the lesser one. -/
theorem extreme_neighbours_missed :
    ¬ Picks (IsExtreme (· ≤ ·)) [2 ^ 53, 2 ^ 53 + 1]
        ((Strategy.reduce max).aggregate [.ofInt (2 ^ 53), .ofInt (2 ^ 53 + 1)]) ∧
      ¬ Picks (IsExtreme (· ≥ ·)) [2 ^ 53 + 1, 2 ^ 53]
        ((Strategy.reduce min).aggregate [.ofInt (2 ^ 53 + 1), .ofInt (2 ^ 53)]) := by
  have hmax : (Strategy.reduce max).aggregate [.ofInt (2 ^ 53), .ofInt (2 ^ 53 + 1)] =
      .ofInt (2 ^ 53) := by decide +kernel
  have hmin : (Strategy.reduce min).aggregate [.ofInt (2 ^ 53 + 1), .ofInt (2 ^ 53)] =
      .ofInt (2 ^ 53 + 1) := by decide +kernel
  rw [hmax, hmin]
  refine ⟨fun hpicks => ?_, fun hpicks => ?_⟩
  · cases hpicks with
    | integer hextreme => exact absurd (hextreme.most (2 ^ 53 + 1) (by decide)) (by decide)
  · cases hpicks with
    | integer hextreme => exact absurd (hextreme.most (2 ^ 53) (by decide)) (by decide)

end Reduction
end Plugboard
