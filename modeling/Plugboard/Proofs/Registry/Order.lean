import Mathlib.Data.List.Basic
import Plugboard.Proofs.Registry.Ledger

/-!
# Dispatch order

Sorting by priority keeps the order of registration among entries of one priority, so
sorting entries that stand in order of registration leaves one list only: the one in
dispatch order.  In the same way sorting by handle restores the order of registration.
-/

namespace Plugboard

variable {ρ : Type}

/-- The entries stand in order of registration. -/
def Registered (entries : List (Entry ρ)) : Prop :=
  entries.Pairwise fun left right => left.handle < right.handle

namespace Registered

theorem filter {entries : List (Entry ρ)} (hentries : Registered entries)
    (keeps : Entry ρ → Bool) : Registered (entries.filter keeps) :=
  List.Pairwise.filter keeps hentries

/-- Entries in order of registration are told apart by their handles. -/
theorem eq_of_handle_eq {entries : List (Entry ρ)} (hentries : Registered entries)
    {left right : Entry ρ} (hleft : left ∈ entries) (hright : right ∈ entries)
    (hhandle : left.handle = right.handle) : left = right := by
  induction entries with
  | nil => cases hleft
  | cons first rest ih =>
      obtain ⟨hfirst, hrest⟩ := List.pairwise_cons.mp hentries
      rcases List.mem_cons.mp hleft with rfl | hleftRest
      · rcases List.mem_cons.mp hright with rfl | hrightRest
        · rfl
        · have := hfirst right hrightRest
          omega
      · rcases List.mem_cons.mp hright with rfl | hrightRest
        · have := hfirst left hleftRest
          omega
        · exact ih hrest hleftRest hrightRest

theorem nodup {entries : List (Entry ρ)} (hentries : Registered entries) : entries.Nodup := by
  apply hentries.imp
  intro left right hlt hsame
  rw [hsame] at hlt
  exact Nat.lt_irrefl _ hlt

end Registered

namespace Entry.Precedes

/-- No two entries precede one another. -/
theorem asymm {left right : Entry ρ} (hprecedes : left.Precedes right) :
    ¬ right.Precedes left := by
  rw [Entry.Precedes] at *
  omega

end Entry.Precedes

namespace Registry

/-- An entry registered earlier is inserted in front of those of its priority. -/
theorem insertByPriority_precedes {entry : Entry ρ} {entries : List (Entry ρ)}
    (hearlier : ∀ other ∈ entries, entry.handle < other.handle)
    (hsorted : entries.Pairwise Entry.Precedes) :
    (insertByPriority entry entries).Pairwise Entry.Precedes := by
  induction entries with
  | nil => simp [insertByPriority]
  | cons other rest ih =>
      obtain ⟨hother, hrest⟩ := List.pairwise_cons.mp hsorted
      simp only [insertByPriority]
      split
      · rename_i hle
        apply List.pairwise_cons.mpr
        constructor
        · intro later hlater
          have hhandle := hearlier later hlater
          have hpriority : other.priority ≤ later.priority := by
            rcases List.mem_cons.mp hlater with rfl | hlater
            · exact Int.le_refl _
            · rcases hother later hlater with hlt | ⟨heq, -⟩ <;> omega
          rw [Entry.Precedes]
          omega
        · exact hsorted
      · rename_i hlt
        have hlater : ∀ later ∈ rest, entry.handle < later.handle := by
          intro later hmem
          exact hearlier later (List.mem_cons_of_mem other hmem)
        apply List.pairwise_cons.mpr
        constructor
        · intro later hmem
          rcases List.mem_cons.mp ((insertByPriority_perm entry rest).mem_iff.mp hmem) with
            rfl | hmem
          · exact Or.inl (by omega)
          · exact hother later hmem
        · exact ih hlater hrest

/-- Sorting by priority is stable, so it leaves entries that stood in order of registration
in dispatch order. -/
theorem sortByPriority_precedes {entries : List (Entry ρ)} (hentries : Registered entries) :
    (sortByPriority entries).Pairwise Entry.Precedes := by
  induction entries with
  | nil => exact List.Pairwise.nil
  | cons entry rest ih =>
      obtain ⟨hfirst, hrest⟩ := List.pairwise_cons.mp hentries
      have hearlier : ∀ other ∈ sortByPriority rest, entry.handle < other.handle := by
        intro other hother
        exact hfirst other (mem_sortByPriority.mp hother)
      exact insertByPriority_precedes hearlier (ih hrest)

/-- Any sort by priority and handle gives the list that the stable sort by priority
gives. -/
theorem sortByPriority_eq_mergeSort {entries : List (Entry ρ)} (hentries : Registered entries) :
    sortByPriority entries =
      entries.mergeSort fun left right => !decide (right.Precedes left) := by
  let le : Entry ρ → Entry ρ → Bool := fun left right => !decide (right.Precedes left)
  have hle : ∀ left right, le left right = true ↔ ¬ right.Precedes left := by
    intro left right
    simp [le]
  have htrans : ∀ first second third, le first second → le second third → le first third := by
    intro first second third hfirst hsecond
    rw [hle, Entry.Precedes] at *
    omega
  have htotal : ∀ left right, (le left right || le right left) = true := by
    intro left right
    rw [Bool.or_eq_true, hle, hle, Entry.Precedes, Entry.Precedes]
    omega
  have hmerged : (entries.mergeSort le).Pairwise fun left right => ¬ right.Precedes left :=
    (List.pairwise_mergeSort htrans htotal entries).imp fun hbelow => (hle _ _).mp hbelow
  have hsorted := (sortByPriority_precedes hentries).imp Entry.Precedes.asymm
  have hperm : (sortByPriority entries).Perm (entries.mergeSort le) :=
    (sortByPriority_perm entries).trans (List.mergeSort_perm entries le).symm
  -- Neither of two entries comes before the other only if they are one entry.
  apply hperm.eq_of_pairwise _ hsorted hmerged
  intro left right hleft hright hbelow habove
  have hhandle : left.handle = right.handle := by
    rw [Entry.Precedes] at hbelow habove
    omega
  exact hentries.eq_of_handle_eq (mem_sortByPriority.mp hleft) (List.mem_mergeSort.mp hright)
    hhandle

theorem insertByHandle_pairwise {entry : Entry ρ} {entries : List (Entry ρ)}
    (hsorted : entries.Pairwise fun left right => left.handle ≤ right.handle) :
    (insertByHandle entry entries).Pairwise fun left right => left.handle ≤ right.handle := by
  induction entries with
  | nil => simp [insertByHandle]
  | cons other rest ih =>
      obtain ⟨hother, hrest⟩ := List.pairwise_cons.mp hsorted
      simp only [insertByHandle]
      split
      · rename_i hle
        apply List.pairwise_cons.mpr
        constructor
        · intro later hlater
          rcases List.mem_cons.mp hlater with rfl | hlater
          · exact hle
          · exact Nat.le_trans hle (hother later hlater)
        · exact hsorted
      · rename_i hlt
        apply List.pairwise_cons.mpr
        constructor
        · intro later hmem
          rcases List.mem_cons.mp ((insertByHandle_perm entry rest).mem_iff.mp hmem) with
            rfl | hmem
          · omega
          · exact hother later hmem
        · exact ih hrest

theorem sortByHandle_pairwise (entries : List (Entry ρ)) :
    (sortByHandle entries).Pairwise fun left right => left.handle ≤ right.handle := by
  induction entries with
  | nil => exact List.Pairwise.nil
  | cons entry rest ih => exact insertByHandle_pairwise ih

/-- Sorting by handle restores the order of registration. -/
theorem sortByHandle_eq {entries ordered : List (Entry ρ)} (hperm : entries.Perm ordered)
    (hordered : Registered ordered) : sortByHandle entries = ordered := by
  have hsorted := (sortByHandle_perm entries).trans hperm
  have hbelow : ordered.Pairwise fun left right => left.handle ≤ right.handle :=
    hordered.imp Nat.le_of_lt
  apply hsorted.eq_of_pairwise _ (sortByHandle_pairwise entries) hbelow
  intro left right hleft hright hle hge
  exact hordered.eq_of_handle_eq (hsorted.mem_iff.mp hleft) hright (Nat.le_antisymm hle hge)

end Registry
end Plugboard
