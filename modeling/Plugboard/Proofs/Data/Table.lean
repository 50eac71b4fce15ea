import Plugboard.Data.Table

/-!
# Looking keys up

A table whose keys are distinct holds exactly the pairs that looking up finds.  Setting,
removing and changing values keep the keys distinct, and removing a list of keys removes
nothing else.  Putting a list of elements into a bag appends those that it lacks.
-/

namespace Plugboard.Table

variable {κ α β : Type}

def keys (table : Table κ α) : List κ := table.map Prod.fst

variable [DecidableEq κ]

/-- A table without repeated keys holds what is found in it. -/
theorem mem_iff_get? {key : κ} {value : α} {table : Table κ α}
    (hkeys : table.keys.Nodup) : (key, value) ∈ table ↔ get? key table = some value := by
  induction table with
  | nil => simp [get?]
  | cons entry rest ih =>
      obtain ⟨hfirst, hrest⟩ := List.nodup_cons.mp hkeys
      by_cases hkey : entry.1 = key
      · subst hkey
        have habsent : (entry.1, value) ∉ rest := by
          intro hmem
          exact hfirst (List.mem_map.mpr ⟨_, hmem, rfl⟩)
        simp only [List.mem_cons, habsent, or_false, get?, if_true, Option.some.injEq]
        constructor
        · intro equality
          exact (congrArg Prod.snd equality).symm
        · intro equality
          exact Prod.ext rfl equality.symm
      · have hne : (key, value) ≠ entry := by
          intro equality
          exact hkey (congrArg Prod.fst equality).symm
        simp [get?, hkey, hne, ih hrest]

/-- A value that is set is found under its key, and nothing else changes. -/
theorem get?_set (key other : κ) (value : α) (table : Table κ α) :
    get? other (set key value table) = if other = key then some value else get? other table := by
  split
  · subst other
    exact get?_set_self ..
  · exact get?_set_of_ne ‹_› ..

theorem get?_remove (key other : κ) (table : Table κ α) :
    get? other (remove key table) = if other = key then none else get? other table := by
  split
  · subst other
    exact get?_remove_self ..
  · exact get?_remove_of_ne ‹_› ..

/-- A key that is set and removed again is gone, and the others are as they were. -/
theorem get?_remove_set (key other : κ) (value : α) (table : Table κ α) :
    get? other (remove key (set key value table)) =
      if other = key then none else get? other table := by
  rw [get?_remove, get?_set]
  by_cases hother : other = key <;> simp [hother]

theorem keys_set (key : κ) (value : α) (table : Table κ α) :
    (table.set key value).keys = if key ∈ table.keys then table.keys else table.keys ++ [key] := by
  induction table with
  | nil => simp [set, keys]
  | cons entry rest ih =>
      by_cases hkey : entry.1 = key
      · simp [set, keys, hkey]
      · have hstep : keys (set key value (entry :: rest)) =
            entry.1 :: keys (set key value rest) := by
          simp [set, keys, hkey]
        have hcons : keys (entry :: rest) = entry.1 :: keys rest := rfl
        rw [hstep, ih, hcons]
        by_cases hmem : key ∈ keys rest <;> simp [hmem, Ne.symm hkey]

theorem nodup_keys_set {table : Table κ α} (hkeys : table.keys.Nodup) (key : κ) (value : α) :
    (table.set key value).keys.Nodup := by
  rw [keys_set]
  by_cases hmem : key ∈ table.keys
  · rw [if_pos hmem]
    exact hkeys
  · rw [if_neg hmem]
    have hapart : ∀ other ∈ table.keys, ∀ added ∈ [key], other ≠ added := by
      intro other hother added hadded hsame
      rw [hsame, List.mem_singleton.mp hadded] at hother
      exact hmem hother
    exact List.nodup_append.mpr ⟨hkeys, List.pairwise_singleton _ _, hapart⟩

theorem nodup_keys_remove {table : Table κ α} (hkeys : table.keys.Nodup) (key : κ) :
    (table.remove key).keys.Nodup :=
  hkeys.sublist (List.Sublist.map Prod.fst List.filter_sublist)

theorem remove_of_get?_eq_none {key : κ} {table : Table κ α} (habsent : get? key table = none) :
    table.remove key = table := by
  induction table with
  | nil => rfl
  | cons entry rest ih =>
      by_cases hkey : entry.1 = key
      · simp [get?, hkey] at habsent
      · rw [get?, if_neg hkey] at habsent
        have hkept : remove key (entry :: rest) = entry :: remove key rest := by
          simp [remove, hkey]
        rw [hkept, ih habsent]

/-- Changing every value changes what each key has. -/
theorem get?_mapValues (change : α → β) (key : κ) (table : Table κ α) :
    get? key (table.map fun entry => (entry.1, change entry.2)) =
      (get? key table).map change := by
  induction table with
  | nil => rfl
  | cons entry rest ih =>
      by_cases hkey : entry.1 = key
      · simp [get?, hkey]
      · simpa [get?, hkey] using ih

/-- Where keys are distinct, a key keeps its value in a selection or has none there. -/
theorem get?_filter {table : Table κ α} (hkeys : table.keys.Nodup) (keep : κ × α → Bool)
    (key : κ) :
    get? key (table.filter keep) = (get? key table).filter fun value => keep (key, value) := by
  induction table with
  | nil => rfl
  | cons entry rest ih =>
      obtain ⟨other, value⟩ := entry
      obtain ⟨hfirst, hrest⟩ := List.nodup_cons.mp hkeys
      by_cases hkey : other = key
      · subst hkey
        have habsent : get? other rest = none := by
          cases hget : get? other rest with
          | none => rfl
          | some found =>
              have hmem := (mem_iff_get? hrest).mpr hget
              exact absurd (List.mem_map.mpr ⟨_, hmem, rfl⟩) hfirst
        cases hkept : keep (other, value) with
        | true => simp [hkept, get?, Option.filter]
        | false => simp [hkept, get?, Option.filter, ih hrest, habsent]
      · cases hkept : keep (other, value) with
        | true => simp [hkept, get?, hkey, ih hrest]
        | false => simp [hkept, get?, hkey, ih hrest]

/-- Removing several keys removes them and leaves the others. -/
theorem get?_removeAll (removed : List κ) (key : κ) (table : Table κ α) :
    get? key (removed.foldl (fun rest other => rest.remove other) table) =
      if key ∈ removed then none else get? key table := by
  induction removed generalizing table with
  | nil => simp
  | cons other rest ih =>
      rw [List.foldl_cons, ih]
      by_cases hkey : key = other
      · subst hkey
        simp
      · simp [hkey, get?_remove_of_ne hkey]

end Plugboard.Table

namespace Plugboard.Bag

variable {κ : Type} [DecidableEq κ]

/-- What is put into a bag comes behind what is in it: that of it which is not in it yet. -/
theorem exists_append_addAll (added : List κ) (bag : Bag κ) :
    ∃ rest, added.foldl (fun bag element => add element bag) bag = bag ++ rest ∧
      ∀ element, element ∈ rest ↔ element ∈ added ∧ element ∉ bag := by
  induction added generalizing bag with
  | nil => exact ⟨[], (List.append_nil bag).symm, by simp⟩
  | cons first others ih =>
      obtain ⟨rest, hfold, hrest⟩ := ih (add first bag)
      rw [List.foldl_cons, hfold]
      by_cases hpresent : first ∈ bag
      · refine ⟨rest, by rw [add, if_pos hpresent], fun element => ?_⟩
        rw [hrest, add, if_pos hpresent, List.mem_cons]
        grind
      · refine ⟨first :: rest, by rw [add, if_neg hpresent, List.append_assoc]; rfl,
          fun element => ?_⟩
        rw [List.mem_cons, hrest, mem_add, List.mem_cons]
        grind

theorem mem_addAll {added : List κ} {bag : Bag κ} {element : κ} :
    element ∈ added.foldl (fun bag other => add other bag) bag ↔
      element ∈ bag ∨ element ∈ added := by
  obtain ⟨rest, hfold, hrest⟩ := exists_append_addAll added bag
  rw [hfold, List.mem_append, hrest]
  by_cases hpresent : element ∈ bag <;> simp [hpresent]

/-- What was appended is what was put in and was not there before. -/
theorem mem_drop_addAll {added : List κ} {bag : Bag κ} {element : κ} :
    element ∈ List.drop bag.length (added.foldl (fun bag other => add other bag) bag) ↔
      element ∈ added ∧ element ∉ bag := by
  obtain ⟨rest, hfold, hrest⟩ := exists_append_addAll added bag
  rw [hfold, List.drop_left, hrest]

theorem mem_dropAll {dropped : List κ} {bag : Bag κ} {element : κ} :
    element ∈ dropped.foldl (fun bag other => drop other bag) bag ↔
      element ∈ bag ∧ element ∉ dropped := by
  induction dropped generalizing bag with
  | nil => simp
  | cons first others ih =>
      rw [List.foldl_cons, ih, mem_drop, List.mem_cons, not_or, and_assoc]

end Plugboard.Bag
