/-!
# Tables

A table keeps one value per key, keys in the order in which they were first set.
-/

namespace Plugboard

/-- Values under keys. -/
abbrev Table (κ α : Type) := List (κ × α)

namespace Table

variable {κ α : Type} [DecidableEq κ]

def get? (key : κ) : Table κ α → Option α
  | [] => none
  | (k, value) :: rest => if k = key then some value else get? key rest

/-- Puts a value under a key, in place of the one before. -/
def set (key : κ) (value : α) : Table κ α → Table κ α
  | [] => [(key, value)]
  | (k, old) :: rest => if k = key then (k, value) :: rest else (k, old) :: set key value rest

def remove (key : κ) (table : Table κ α) : Table κ α :=
  table.filter (fun entry => decide (entry.1 ≠ key))

def has (key : κ) (table : Table κ α) : Bool := (get? key table).isSome

@[simp]
theorem get?_set_self (key : κ) (value : α) (table : Table κ α) :
    get? key (set key value table) = some value := by
  induction table with
  | nil => simp [set, get?]
  | cons entry rest ih =>
    by_cases h : entry.1 = key
    · simp [set, get?, h]
    · simp [set, get?, h, ih]

theorem get?_set_of_ne {key other : κ} (hne : other ≠ key) (value : α) (table : Table κ α) :
    get? other (set key value table) = get? other table := by
  induction table with
  | nil => simp [set, get?, hne.symm]
  | cons entry rest ih =>
    by_cases h : entry.1 = key
    · have hother : entry.1 ≠ other := fun equal => hne (equal.symm.trans h)
      simp [set, get?, h, hne.symm]
    · simp [set, get?, h, ih]

@[simp]
theorem get?_remove_self (key : κ) (table : Table κ α) : get? key (remove key table) = none := by
  induction table with
  | nil => rfl
  | cons entry rest ih =>
    by_cases h : entry.1 = key
    · simpa [remove, h] using ih
    · simpa [remove, get?, h] using ih

theorem get?_remove_of_ne {key other : κ} (hne : other ≠ key) (table : Table κ α) :
    get? other (remove key table) = get? other table := by
  induction table with
  | nil => rfl
  | cons entry rest ih =>
    by_cases h : entry.1 = key
    · have hother : entry.1 ≠ other := fun equal => hne (equal.symm.trans h)
      simpa [remove, get?, h, hother, hne.symm] using ih
    · by_cases hother : entry.1 = other
      · simp [remove, get?, hother, hne]
      · simpa [remove, get?, h, hother] using ih

end Table

/-- A finite set without order. -/
abbrev Bag (κ : Type) := List κ

namespace Bag

variable {κ : Type} [DecidableEq κ]

/-- Puts an element in, once. -/
def add (element : κ) (bag : Bag κ) : Bag κ := if element ∈ bag then bag else bag ++ [element]

def drop (element : κ) (bag : Bag κ) : Bag κ := bag.filter (fun other => decide (other ≠ element))

@[simp]
theorem mem_add {element other : κ} {bag : Bag κ} :
    other ∈ add element bag ↔ other ∈ bag ∨ other = element := by
  by_cases h : element ∈ bag
  · simp only [add, h, if_true]
    exact ⟨Or.inl, fun member => member.elim id (fun equal => equal ▸ h)⟩
  · simp [add, h]

@[simp]
theorem mem_drop {element other : κ} {bag : Bag κ} :
    other ∈ drop element bag ↔ other ∈ bag ∧ other ≠ element := by
  simp [drop]

end Bag
end Plugboard
