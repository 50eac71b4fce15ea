import Plugboard.Data.Value
import Mathlib.Data.String.Basic

/-!
# Members in the order of their keys

Inserting keeps members in increasing order of their keys, and so they are whatever they were
built from.  Members in order have one value under each key, which is the one that looking the
key up finds.
-/

namespace Plugboard.Members

variable {α β : Type} {key other : String} {value : α} {members pairs : List (String × α)}

/-- The keys increase, so that none occurs twice. -/
def Ordered (members : List (String × α)) : Prop :=
  members.Pairwise fun left right => left.1 < right.1

theorem ordered_nil : Ordered ([] : List (String × α)) := List.Pairwise.nil

theorem ordered_cons {member : String × α} :
    Ordered (member :: members) ↔
      (∀ later ∈ members, member.1 < later.1) ∧ Ordered members := List.pairwise_cons

theorem Ordered.map (hordered : Ordered members) (change : α → β) :
    Ordered (members.map fun (key, value) => (key, change value)) :=
  List.pairwise_map.mpr hordered

/-! ## Inserting -/

theorem mem_insert {member : String × α} (hmember : member ∈ insert key value members) :
    member = (key, value) ∨ member ∈ members := by
  induction members with
  | nil => exact .inl (List.mem_singleton.mp hmember)
  | cons first rest ih =>
      rw [insert] at hmember
      split at hmember
      · exact List.mem_cons.mp hmember
      · split at hmember
        · exact (List.mem_cons.mp hmember).imp_right (List.mem_cons_of_mem first)
        · rcases List.mem_cons.mp hmember with rfl | hmember
          · exact .inr List.mem_cons_self
          · exact (ih hmember).imp_right (List.mem_cons_of_mem first)

/-- Inserting a member keeps the keys in order. -/
theorem Ordered.insert (hordered : Ordered members) (key : String) (value : α) :
    Ordered (Members.insert key value members) := by
  induction members with
  | nil => exact List.pairwise_singleton _ _
  | cons first rest ih =>
      obtain ⟨hfirst, hrest⟩ := ordered_cons.mp hordered
      rw [Members.insert]
      split
      · rename_i hkey
        refine ordered_cons.mpr ⟨?_, hordered⟩
        intro later hlater
        rcases List.mem_cons.mp hlater with rfl | hlater
        · exact hkey
        · exact hkey.trans (hfirst later hlater)
      · rename_i hkey
        split
        · rename_i hsame
          refine ordered_cons.mpr ⟨?_, hrest⟩
          intro later hlater
          rw [← hsame]
          exact hfirst later hlater
        · rename_i hother
          refine ordered_cons.mpr ⟨?_, ih hrest⟩
          intro later hlater
          rcases mem_insert hlater with rfl | hlater
          · exact lt_of_le_of_ne (not_lt.mp hkey) hother
          · exact hfirst later hlater

/-- A key beyond all others goes to the end. -/
theorem insert_of_forall_lt (hlast : ∀ member ∈ members, member.1 < key) :
    insert key value members = members ++ [(key, value)] := by
  induction members with
  | nil => rfl
  | cons first rest ih =>
      obtain ⟨hfirst, hrest⟩ := List.forall_mem_cons.mp hlast
      rw [insert, if_neg hfirst.asymm, if_neg hfirst.ne, ih hrest]
      rfl

/-! ## Lists of pairs -/

theorem ordered_foldl_insert (hordered : Ordered members) :
    Ordered (pairs.foldl (fun members (key, value) => insert key value members) members) := by
  induction pairs generalizing members with
  | nil => exact hordered
  | cons pair rest ih => exact ih (hordered.insert pair.1 pair.2)

theorem mem_foldl_insert {member : String × α}
    (hmember : member ∈ pairs.foldl (fun members (key, value) => insert key value members) members) :
    member ∈ members ∨ member ∈ pairs := by
  induction pairs generalizing members with
  | nil => exact .inl hmember
  | cons pair rest ih =>
      rcases ih hmember with hearlier | hlater
      · rcases mem_insert hearlier with rfl | hearlier
        · exact .inr List.mem_cons_self
        · exact .inl hearlier
      · exact .inr (List.mem_cons_of_mem _ hlater)

theorem mem_ofList {member : String × α} (hmember : member ∈ ofList pairs) : member ∈ pairs :=
  (mem_foldl_insert hmember).resolve_left List.not_mem_nil

theorem ordered_ofList (pairs : List (String × α)) : Ordered (ofList pairs) :=
  ordered_foldl_insert ordered_nil

/-- Members in order are appended one after the other. -/
theorem foldl_insert_eq_append {earlier : List (String × α)}
    (hordered : Ordered (earlier ++ members)) :
    members.foldl (fun members (key, value) => insert key value members) earlier =
      earlier ++ members := by
  induction members generalizing earlier with
  | nil => exact (List.append_nil earlier).symm
  | cons first rest ih =>
      obtain ⟨key, value⟩ := first
      have hlast : ∀ member ∈ earlier, member.1 < key := fun member hmember =>
        (List.pairwise_append.mp hordered).2.2 member hmember _ List.mem_cons_self
      rw [List.append_cons] at hordered ⊢
      change List.foldl _ (insert key value earlier) rest = _
      rw [insert_of_forall_lt hlast, ih hordered]

/-- Members in order are built anew as they are. -/
theorem Ordered.ofList_eq (hordered : Ordered members) : ofList members = members :=
  foldl_insert_eq_append hordered

/-! ## Looking keys up -/

theorem get?_eq_none (habsent : ∀ member ∈ members, member.1 ≠ key) : get? key members = none := by
  induction members with
  | nil => rfl
  | cons first rest ih =>
      obtain ⟨hfirst, hrest⟩ := List.forall_mem_cons.mp habsent
      rw [get?, if_neg hfirst, ih hrest]

/-- Behind the first member in order its key does not come again. -/
theorem Ordered.get?_rest {member : String × α} (hordered : Ordered (member :: members)) :
    get? member.1 members = none :=
  get?_eq_none fun later hlater => ((ordered_cons.mp hordered).1 later hlater).ne'

theorem mem_of_get? (hvalue : get? key members = some value) : (key, value) ∈ members := by
  induction members with
  | nil => cases hvalue
  | cons first rest ih =>
      rw [get?] at hvalue
      split at hvalue
      · rename_i hkey
        cases hvalue
        rw [← hkey]
        exact List.mem_cons_self
      · exact List.mem_cons_of_mem _ (ih hvalue)

theorem get?_of_mem (hkeys : (members.map Prod.fst).Nodup) {member : String × α}
    (hmember : member ∈ members) : get? member.1 members = some member.2 := by
  induction members with
  | nil => cases hmember
  | cons first rest ih =>
      obtain ⟨hfirst, hrest⟩ := List.nodup_cons.mp hkeys
      rcases List.mem_cons.mp hmember with rfl | hmember
      · rw [get?, if_pos rfl]
      · have hother : first.1 ≠ member.1 := by
          intro hsame
          rw [hsame] at hfirst
          exact hfirst (List.mem_map_of_mem hmember)
        rw [get?, if_neg hother, ih hrest hmember]

/-- What is inserted under a key is found there, and nothing else changes. -/
theorem get?_insert (key other : String) (value : α) (members : List (String × α)) :
    get? other (insert key value members) =
      if other = key then some value else get? other members := by
  by_cases hother : other = key
  · rw [hother, get?_insert_self, if_pos rfl]
  · rw [get?_insert_of_ne hother, if_neg hother]

/-- What was inserted hides what was there before. -/
theorem get?_foldl_insert (hkeys : (pairs.map Prod.fst).Nodup) :
    get? key (pairs.foldl (fun members (key, value) => insert key value members) members) =
      (get? key pairs).or (get? key members) := by
  induction pairs generalizing members with
  | nil => rfl
  | cons pair rest ih =>
      obtain ⟨hfirst, hrest⟩ := List.nodup_cons.mp hkeys
      rw [List.foldl_cons, ih hrest, get?_insert, get?]
      by_cases hkey : pair.1 = key
      · have hnone : get? key rest = none := by
          apply get?_eq_none
          intro member hmember hsame
          exact hfirst (List.mem_map.mpr ⟨member, hmember, hsame.trans hkey.symm⟩)
        rw [if_pos hkey, if_pos hkey.symm, hnone]
        rfl
      · rw [if_neg hkey, if_neg (Ne.symm hkey)]

/-- Where no key is given twice, each is found with what it was given. -/
theorem get?_ofList (hkeys : (pairs.map Prod.fst).Nodup) :
    get? key (ofList pairs) = get? key pairs := by
  rw [ofList, get?_foldl_insert hkeys, get?, Option.or_none]

/-- Members in order are the same if they have the same values under all keys. -/
theorem Ordered.ext {left right : List (String × α)} (hleft : Ordered left) (hright : Ordered right)
    (hsame : ∀ key, get? key left = get? key right) : left = right := by
  induction left generalizing right with
  | nil =>
      cases right with
      | nil => rfl
      | cons member rest => simpa [get?] using hsame member.1
  | cons first others ih =>
      cases right with
      | nil => simpa [get?] using hsame first.1
      | cons member rest =>
          have hfirst := hsame first.1
          have hmember := hsame member.1
          rw [get?, if_pos rfl, get?] at hfirst
          rw [get?, get?, if_pos rfl] at hmember
          -- A first key below all others would be found on one side only.
          have hkeys : first.1 = member.1 := by
            by_contra hother
            rw [if_neg (Ne.symm hother)] at hfirst
            rw [if_neg hother] at hmember
            have hbelow := (ordered_cons.mp hright).1 _ (mem_of_get? hfirst.symm)
            have habove := (ordered_cons.mp hleft).1 _ (mem_of_get? hmember)
            exact absurd hbelow habove.asymm
          rw [if_pos hkeys.symm] at hfirst
          have hboth : first = member := Prod.ext hkeys (Option.some.inj hfirst)
          subst hboth
          refine congrArg _ (ih (ordered_cons.mp hleft).2 (ordered_cons.mp hright).2 fun key => ?_)
          by_cases hkey : first.1 = key
          · rw [← hkey, hleft.get?_rest, hright.get?_rest]
          · simpa [get?, hkey] using hsame key

end Plugboard.Members
