import Plugboard.Strategy
import Mathlib.Algebra.BigOperators.Group.List.Basic
import Mathlib.Algebra.Order.Ring.Int
import Mathlib.Data.List.Induction

/-!
# Sums of results

A sum goes on as a 64-bit integer with a sign for as long as it can, and in floating point from
then on.  A sum that comes out as an integer is exact: nothing was rounded on the way, and no sum
before it was out of range.  A sum that was an integer no more never is one again.
-/

namespace Plugboard

def Value.numbers (values : List Value) : List Number := values.filterMap Value.asNumber?

/-- The integer fits in 64 bits with a sign. -/
def Number.Signed (value : Int) : Prop := -(Nat.pow 2 63) ≤ value ∧ value < Nat.pow 2 63

namespace Reduction

open Number (Signed)

instance (value : Int) : Decidable (Signed value) := inferInstanceAs (Decidable (_ ∧ _))

/-- The integers fit, and so does every sum of the first of them. -/
structure StaysSigned (integers : List Int) : Prop where
  each : ∀ value ∈ integers, Signed value
  sums : ∀ taken, taken <+: integers → Signed taken.sum

/-- The sum so far with one more number. -/
def addNext (total : Value) (number : Number) : Value := addNumbers total (.number number)

/-- A reduction that ignores whatever is no number folds the numbers alone. -/
theorem aggregate_eq_foldl_numbers (reduction : Reduction)
    (hignores : ∀ total value, value.asNumber? = none → reduction.combine total value = total)
    (results : List Value) :
    (Strategy.reduce reduction).aggregate results =
      (Value.numbers results).foldl (fun total number => reduction.combine total (.number number))
        reduction.seed := by
  have hfold (total : Value) :
      (results.filter fun value => !value.isNull).foldl reduction.combine total =
        (Value.numbers results).foldl
          (fun total number => reduction.combine total (.number number)) total := by
    induction results generalizing total with
    | nil => rfl
    | cons value rest ih =>
        cases value with
        | null => exact ih total
        | number number => exact ih _
        | _ =>
            rw [List.filter_cons_of_pos rfl, List.foldl_cons, hignores total _ rfl]
            exact ih total
  exact hfold _

/-- A sum takes in one number after the other, and nothing else. -/
theorem aggregate_sum (results : List Value) :
    (Strategy.reduce sum).aggregate results =
      (Value.numbers results).foldl addNext (.ofInt 0) := by
  refine aggregate_eq_foldl_numbers sum (fun total value hnone => ?_) results
  cases value with
  | number number => cases hnone
  | _ => rfl

/-! ## One more number -/

theorem asSigned?_integer (value : Int) :
    (Number.integer value).asSigned? = if Signed value then some value else none := rfl

theorem asSigned?_eq_some_iff {value : Value} {n : Int} :
    value.asSigned? = some n ↔ value = .ofInt n ∧ Signed n := by
  cases value with
  | number number =>
      cases number with
      | float x => simp [Value.asSigned?, Value.asNumber?, Number.asSigned?, Value.ofInt]
      | integer value =>
          rw [Value.asSigned?, Value.asNumber?, Option.bind_some, asSigned?_integer, Value.ofInt]
          by_cases hsigned : Signed value
          · simp only [if_pos hsigned, Option.some.injEq, Value.number.injEq, Number.integer.injEq]
            exact ⟨fun hsame => ⟨hsame, hsame ▸ hsigned⟩, And.left⟩
          · simp only [if_neg hsigned, reduceCtorEq, false_iff, Value.number.injEq,
              Number.integer.injEq]
            rintro ⟨rfl, hn⟩
            exact hsigned hn
  | _ => simp [Value.asSigned?, Value.asNumber?, Value.ofInt]

/-- The sum is an integer again just if all is well with the integers added. -/
theorem addNext_eq_ofInt_iff {before : Value} {number : Number} {total : Int} :
    addNext before number = .ofInt total ↔
      ∃ sum n, before = .ofInt sum ∧ Signed sum ∧ number = .integer n ∧ Signed n ∧
        Signed (sum + n) ∧ total = sum + n := by
  have hfloating (x : Float64) : Value.ofFloat x ≠ .ofInt total := by
    rw [Value.ofFloat, Value.ofInt]
    split <;> simp
  rw [addNext, addNumbers]
  constructor
  · intro htotal
    split at htotal
    · rename_i sum n hbefore hnumber
      obtain ⟨rfl, hsum⟩ := asSigned?_eq_some_iff.mp hbefore
      obtain ⟨hnumber, hn⟩ := asSigned?_eq_some_iff.mp hnumber
      rw [asSigned?_integer] at htotal
      by_cases hinside : Signed (sum + n)
      · rw [if_pos hinside] at htotal
        cases hnumber
        cases htotal
        exact ⟨sum, n, rfl, hsum, rfl, hn, hinside, rfl⟩
      · rw [if_neg hinside] at htotal
        exact absurd htotal (hfloating _)
    · exact absurd htotal (hfloating _)
  · rintro ⟨sum, n, rfl, hsum, rfl, hn, hinside, rfl⟩
    have hbefore : (Value.ofInt sum).asSigned? = some sum := asSigned?_eq_some_iff.mpr ⟨rfl, hsum⟩
    have hnumber : (Value.number (.integer n)).asSigned? = some n :=
      asSigned?_eq_some_iff.mpr ⟨rfl, hn⟩
    simp only [hbefore, hnumber, asSigned?_integer, if_pos hinside]

theorem staysSigned_nil : StaysSigned [] where
  each := List.forall_mem_nil _
  sums taken htaken := by
    rw [List.prefix_nil.mp htaken]
    decide

theorem StaysSigned.of_prefix {earlier integers : List Int} (hstays : StaysSigned integers)
    (hstart : earlier <+: integers) : StaysSigned earlier where
  each value hvalue := hstays.each value (hstart.subset hvalue)
  sums taken htaken := hstays.sums taken (htaken.trans hstart)

/-- Integers stay in range with one more if it fits and so does the whole sum. -/
theorem staysSigned_concat {integers : List Int} {n : Int} :
    StaysSigned (integers ++ [n]) ↔
      StaysSigned integers ∧ Signed n ∧ Signed (integers.sum + n) := by
  constructor
  · intro h
    refine ⟨⟨fun value hvalue => h.each value (List.mem_append_left _ hvalue),
      fun taken htaken => h.sums taken (htaken.trans (List.prefix_append _ _))⟩,
      h.each n (List.mem_append_right _ List.mem_cons_self), ?_⟩
    simpa using h.sums _ (List.prefix_refl _)
  · rintro ⟨h, hn, hsum⟩
    refine ⟨fun value hvalue => ?_, fun taken htaken => ?_⟩
    · rcases List.mem_append.mp hvalue with hvalue | hvalue
      · exact h.each value hvalue
      · rwa [List.mem_singleton.mp hvalue]
    · rcases List.prefix_concat_iff.mp htaken with rfl | htaken
      · simpa using hsum
      · exact h.sums taken htaken

/-! ## All numbers -/

/-- As long as it is an integer, the sum is that of integers that fit, with all sums before. -/
theorem foldl_addNext_eq_ofInt_iff {numbers : List Number} {total : Int} :
    numbers.foldl addNext (.ofInt 0) = .ofInt total ↔
      ∃ integers, numbers = integers.map .integer ∧ StaysSigned integers ∧
        total = integers.sum := by
  induction numbers using List.reverseRecOn generalizing total with
  | nil =>
      constructor
      · intro htotal
        cases htotal
        exact ⟨[], rfl, staysSigned_nil, rfl⟩
      · rintro ⟨integers, hnumbers, -, rfl⟩
        rw [List.map_eq_nil_iff.mp hnumbers.symm]
        rfl
  | append_singleton numbers number ih =>
      rw [List.foldl_append, List.foldl_cons, List.foldl_nil, addNext_eq_ofInt_iff]
      constructor
      · rintro ⟨sum, n, hbefore, hsum, rfl, hn, hinside, rfl⟩
        obtain ⟨integers, rfl, hstays, rfl⟩ := ih.mp hbefore
        exact ⟨integers ++ [n], by simp, staysSigned_concat.mpr ⟨hstays, hn, hinside⟩, by simp⟩
      · rintro ⟨integers, hnumbers, hstays, rfl⟩
        obtain ⟨earlier, last, rfl, rfl, hlast⟩ := List.append_eq_map_iff.mp hnumbers
        obtain ⟨n, rfl, rfl⟩ := List.map_eq_singleton_iff.mp hlast
        obtain ⟨hstays, hn, hinside⟩ := staysSigned_concat.mp hstays
        exact ⟨earlier.sum, n, ih.mpr ⟨earlier, rfl, hstays, rfl⟩,
          hstays.sums _ (List.prefix_refl _), rfl, hn, hinside, by simp⟩

/-- The sum of results is an integer just if all numbers among them are integers that fit and no
sum of the first of them is out of range, and then it is their exact sum.  Once it is no integer, it
is none with any further results. -/
theorem integer_sums_are_exact (results : List Value) :
    (∀ total, (Strategy.reduce sum).aggregate results = .ofInt total ↔
      ∃ integers, Value.numbers results = integers.map .integer ∧ StaysSigned integers ∧
        total = integers.sum) ∧
    ∀ further, (∀ total, (Strategy.reduce sum).aggregate results ≠ .ofInt total) →
      ∀ total, (Strategy.reduce sum).aggregate (results ++ further) ≠ .ofInt total := by
  simp only [aggregate_sum, ne_eq, foldl_addNext_eq_ofInt_iff, implies_true, true_and]
  rintro further hleft _ ⟨integers, hnumbers, hstays, -⟩
  rw [Value.numbers, List.filterMap_append] at hnumbers
  obtain ⟨earlier, later, rfl, hearlier, -⟩ := List.append_eq_map_iff.mp hnumbers
  exact hleft earlier.sum ⟨earlier, hearlier.symm, hstays.of_prefix (List.prefix_append _ _), rfl⟩

/-- The largest integer and one more: the sum is not an integer, and one less does not bring it
back. -/
example :
    (Strategy.reduce sum).aggregate [.ofInt (2 ^ 63 - 1), .null, .ofInt 1, .ofInt (-1)] =
      .number (.float (Float64.ofInt (2 ^ 63))) := by
  decide +kernel

end Reduction
end Plugboard
