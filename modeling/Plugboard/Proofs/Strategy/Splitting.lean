import Plugboard.Strategy
import Mathlib.Algebra.Order.Ring.Int
import Mathlib.Data.List.Induction

/-!
# Results in two parts

What a strategy makes of a list of results can be read off the results that are not null, and two
lists one after the other are read by putting their readings together.  So an aggregate can be
made part by part, and null results may be left out of any list.
-/

namespace Plugboard
namespace Strategy

/-- The results that are not null, in order. -/
def present (results : List Value) : List Value := results.filter fun value => !value.isNull

/-- What a result adds to a flattened list: the items of an array as they are, or itself. -/
def pieces : Value → List Value
  | .array items => items
  | other => [other]

def merged (flatten : Bool) (results : List Value) : List Value :=
  (present results).flatMap fun value => if flatten then pieces value else [value]

def joined (results : List Value) : String :=
  String.join ((present results).map Reduction.concatText)

/-- The second value stands in for a first one that is null. -/
def orElse (first second : Value) : Value := if first.isNull then second else first

/-- The aggregate of some results shows a reading of them, and results in two parts are read by
joining the readings of the parts. -/
structure Distributes {α : Type} (strategy : Strategy) (shows : α → Value)
    (reading : List Value → α) (join : α → α → α) : Prop where
  aggregate : ∀ results, strategy.aggregate results = shows (reading results)
  append : ∀ earlier later, reading (earlier ++ later) = join (reading earlier) (reading later)

/-- The first list is the second without some of its nulls. -/
inductive OmitsNulls : List Value → List Value → Prop where
  | nil : OmitsNulls [] []
  | keep (value : Value) {kept results : List Value} (hrest : OmitsNulls kept results) :
      OmitsNulls (value :: kept) (value :: results)
  | skip {kept results : List Value} (hrest : OmitsNulls kept results) :
      OmitsNulls kept (.null :: results)

@[simp]
theorem present_append (earlier later : List Value) :
    present (earlier ++ later) = present earlier ++ present later :=
  List.filter_append earlier later

/-- Nulls make no difference to what is present. -/
theorem OmitsNulls.present_eq {kept results : List Value} (homits : OmitsNulls kept results) :
    present kept = present results := by
  induction homits with
  | nil => rfl
  | keep value hrest ih => simp only [present, List.filter_cons] at ih ⊢; rw [ih]
  | skip hrest ih => exact ih

/-- No strategy sees nulls. -/
theorem aggregate_eq_of_present_eq (strategy : Strategy) {results others : List Value}
    (hpresent : present results = present others) :
    strategy.aggregate results = strategy.aggregate others := by
  unfold aggregate
  rw [show results.filter _ = others.filter _ from hpresent]

/-! ## The first result and merging -/

theorem distributes_first :
    Distributes .first id (fun results => (present results).headD .null) orElse where
  aggregate _ := rfl
  append earlier later := by
    have hhead {value : Value} {rest : List Value} (hpresent : present earlier = value :: rest) :
        value.isNull = false := by
      have hmem : value ∈ present earlier := hpresent ▸ List.mem_cons_self
      simpa using (List.mem_filter.mp hmem).2
    rw [present_append]
    cases hpresent : present earlier with
    | nil => rfl
    | cons value rest => simp [orElse, hhead hpresent]

theorem splice_eq_flatMap (values : List Value) : splice values = values.flatMap pieces := by
  induction values with
  | nil => rfl
  | cons value rest ih => cases value <;> simp [splice, pieces, ih]

theorem distributes_merge (flatten : Bool) :
    Distributes (.merge flatten) .array (merged flatten) (· ++ ·) where
  aggregate results := by
    change Value.array (if flatten then splice (present results) else present results) = _
    cases flatten with
    | true => simp [merged, splice_eq_flatMap]
    | false => simp [merged]
  append earlier later := by simp only [merged, present_append, List.flatMap_append]

/-! ## Reductions -/

/-- A reduction is its left fold over the results that are not null. -/
theorem aggregate_reduce (reduction : Reduction) (results : List Value) :
    (Strategy.reduce reduction).aggregate results =
      (present results).foldl reduction.combine reduction.seed := rfl

/-- A fold that only ever holds what is shown of a state is a fold over states. -/
theorem foldl_combine_eq {α : Type} (shows : α → Value) {combine : Value → Value → Value}
    {step : α → Value → α} (hstep : ∀ state value, combine (shows state) value =
      shows (step state value)) (values : List Value) (state : α) :
    values.foldl combine (shows state) = shows (values.foldl step state) := by
  induction values generalizing state with
  | nil => rfl
  | cons value rest ih => rw [List.foldl_cons, hstep, ih, List.foldl_cons]

theorem distributes_concat :
    Distributes (.reduce .concat) .string joined (· ++ ·) where
  aggregate results := by
    have hstep (text : String) (value : Value) :
        Reduction.concat.combine (.string text) value =
          .string (text ++ Reduction.concatText value) := rfl
    have hfold := foldl_combine_eq Value.string hstep (present results) ""
    rw [aggregate_reduce, joined, String.join, List.foldl_map]
    exact hfold
  append earlier later := by
    simp only [joined, present_append, List.map_append, String.join_append]

theorem distributes_all :
    Distributes (.reduce .all) .bool (fun results => (present results).all Reduction.truthy)
      (· && ·) where
  aggregate results := by
    have hfold (values : List Value) (holds : Bool) :
        values.foldl Reduction.all.combine (.bool holds) =
          .bool (holds && values.all Reduction.truthy) := by
      induction values generalizing holds with
      | nil => rw [List.foldl_nil, List.all_nil, Bool.and_true]
      | cons value rest ih => exact (ih _).trans (by rw [List.all_cons, Bool.and_assoc]; rfl)
    exact hfold (present results) true
  append earlier later := by rw [present_append, List.all_append]

theorem distributes_any :
    Distributes (.reduce .any) .bool (fun results => (present results).any Reduction.truthy)
      (· || ·) where
  aggregate results := by
    have hfold (values : List Value) (holds : Bool) :
        values.foldl Reduction.any.combine (.bool holds) =
          .bool (holds || values.any Reduction.truthy) := by
      induction values generalizing holds with
      | nil => rw [List.foldl_nil, List.any_nil, Bool.or_false]
      | cons value rest ih => exact (ih _).trans (by rw [List.any_cons, Bool.or_assoc]; rfl)
    exact hfold (present results) false
  append earlier later := by rw [present_append, List.any_append]

theorem asUnsigned?_ofNat {n : Nat} (hfits : n < Nat.pow 2 64) :
    (Value.ofNat n).asUnsigned? = some n := by
  rw [Value.ofNat, Value.asUnsigned?, Value.asNumber?, Option.bind_some, Number.asUnsigned?,
    if_pos ⟨Int.natCast_nonneg n, Int.ofNat_lt.mpr hfits⟩, Int.toNat_natCast]

/-- Counting goes on while the count fits in 64 bits. -/
theorem foldl_count {values : List Value} {counted : Nat}
    (hfits : counted + values.length < Nat.pow 2 64) :
    values.foldl Reduction.count.combine (.ofNat counted) = .ofNat (counted + values.length) := by
  induction values generalizing counted with
  | nil => rfl
  | cons value rest ih =>
      rw [List.length_cons, ← Nat.add_assoc, Nat.add_right_comm] at hfits ⊢
      have hcounted : counted < Nat.pow 2 64 :=
        Nat.lt_of_le_of_lt (Nat.le_add_right_of_le (Nat.le_add_right counted 1)) hfits
      have hnext : Reduction.count.combine (.ofNat counted) value = .ofNat (counted + 1) := by
        change Value.ofNat ((Value.ofNat counted).asUnsigned?.getD 0 + 1) = _
        rw [asUnsigned?_ofNat hcounted, Option.getD_some]
      rw [List.foldl_cons, hnext, ih hfits]

/-- As many results are counted as are not null. -/
theorem aggregate_count {results : List Value} (hfits : (present results).length < Nat.pow 2 64) :
    (Strategy.reduce .count).aggregate results = .ofNat (present results).length := by
  rw [← Nat.zero_add (present results).length] at hfits ⊢
  exact foldl_count hfits

/-- What strategies make of results in two parts is made of what they make of the parts: the first
part's value unless it is null, arrays and texts one after the other, the sum of the counts, and
the conjunction or disjunction of truth values.  Counts have 64 bits, which is more than the
length of any list that fits in memory.  No strategy, built in or with a combiner of the caller's
own, makes anything of nulls. -/
theorem aggregates_distribute :
    Distributes .first id (fun results => (present results).headD .null) orElse ∧
    (∀ flatten, Distributes (.merge flatten) .array (merged flatten) (· ++ ·)) ∧
    Distributes (.reduce .concat) .string joined (· ++ ·) ∧
    Distributes (.reduce .all) .bool (fun results => (present results).all Reduction.truthy)
      (· && ·) ∧
    Distributes (.reduce .any) .bool (fun results => (present results).any Reduction.truthy)
      (· || ·) ∧
    (∀ earlier later, (present (earlier ++ later)).length < Nat.pow 2 64 →
      ∃ first second, (Strategy.reduce .count).aggregate earlier = .ofNat first ∧
        (Strategy.reduce .count).aggregate later = .ofNat second ∧
        (Strategy.reduce .count).aggregate (earlier ++ later) = .ofNat (first + second) ∧
        first = earlier.countP (· ≠ .null) ∧ second = later.countP (· ≠ .null)) ∧
    ∀ strategy : Strategy, ∀ kept results, OmitsNulls kept results →
      strategy.aggregate kept = strategy.aggregate results := by
  refine ⟨distributes_first, distributes_merge, distributes_concat, distributes_all,
    distributes_any, fun earlier later hfits => ?_, fun strategy kept results homits =>
      strategy.aggregate_eq_of_present_eq homits.present_eq⟩
  have hlength (results : List Value) :
      (present results).length = results.countP (· ≠ .null) := by
    rw [present, ← List.countP_eq_length_filter]
    refine List.countP_congr fun value _ => ?_
    cases value <;> simp [Value.isNull]
  rw [present_append, List.length_append] at hfits
  refine ⟨_, _, aggregate_count (Nat.lt_of_le_of_lt (Nat.le_add_right _ _) hfits),
    aggregate_count (Nat.lt_of_le_of_lt (Nat.le_add_left _ _) hfits), ?_,
    hlength earlier, hlength later⟩
  rw [aggregate_count (by rwa [present_append, List.length_append]), present_append,
    List.length_append]

theorem aggregates_distribute_of_sample :
    let earlier : List Value := [.null, .array [.null, .array [.ofInt 1]]]
    let later : List Value := [.string "a", .null]
    (present (earlier ++ later)).length < Nat.pow 2 64 ∧
      (Strategy.merge true).aggregate (earlier ++ later) =
        .array [.null, .array [.ofInt 1], .string "a"] ∧
      (∃ first second, (Strategy.reduce .count).aggregate (earlier ++ later) =
        .ofNat (first + second) ∧ first = 1 ∧ second = 1) ∧
      OmitsNulls [.string "a"] later ∧
      (Strategy.reduce (.custom .null fun _ value => value)).aggregate [.string "a"] =
        (Strategy.reduce (.custom .null fun _ value => value)).aggregate later := by
  intro earlier later
  obtain ⟨-, hmerge, -, -, -, hcount, hnulls⟩ := aggregates_distribute
  have hfits : (present (earlier ++ later)).length < Nat.pow 2 64 := by decide
  have homits : OmitsNulls [.string "a"] later := .keep _ (.skip .nil)
  obtain ⟨first, second, -, -, htotal, hfirst, hsecond⟩ := hcount earlier later hfits
  exact ⟨hfits, (hmerge true).aggregate _, ⟨first, second, htotal, hfirst, hsecond⟩, homits,
    hnulls _ _ _ homits⟩

end Strategy
end Plugboard
