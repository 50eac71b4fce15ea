import Plugboard.Proofs.Data.Members
import Plugboard.Data.Duration

/-!
# Reading what was written

What is written as a value is read as a document again.  A record is written as an object of its
fields, in whatever order, and each field is found under its name; numbers, texts, durations and
what is optional are read back as they were.
-/

namespace Plugboard

open Document (ofValue ofMembers ofItems)

variable {α : Type} {dialect : Dialect} {name : String} {members : Members}
  {pairs : List (String × Value)}

/-! ## Slots -/

namespace Slot

variable {read : Reader α} {document : Document}

@[simp]
theorem required_given : required read dialect (.given document) = read dialect document := by
  rw [required]

@[simp]
theorem orElse_given {fallback : α} :
    orElse read fallback dialect (.given document) = read dialect document := by
  rw [orElse]

/-- What stands in a slot that may be empty is the fallback, or was read. -/
theorem of_orElse {fallback content : α} {slot : Slot}
    (hread : orElse read fallback dialect slot = some content) :
    content = fallback ∨
      ∃ document, slot = .given document ∧ read dialect document = some content := by
  cases slot with
  | given document =>
      rw [orElse_given] at hread
      exact .inr ⟨document, rfl, hread⟩
  | absent => exact .inl (Option.some.inj hread).symm
  | beyond => exact .inl (Option.some.inj hread).symm

@[simp]
theorem omittable_given {read : Reader (Option α)} :
    omittable read dialect (.given document) = read dialect document := by
  rw [omittable]

end Slot

/-! ## Records -/

theorem Document.ofMembers_eq (members : Members) :
    ofMembers members = members.map fun (key, value) => (some key, ofValue value) := by
  induction members with
  | nil => rfl
  | cons member rest ih =>
      obtain ⟨key, value⟩ := member
      rw [ofMembers, ih]
      rfl

theorem Document.ofItems_eq (items : List Value) : ofItems items = items.map ofValue := by
  induction items with
  | nil => rfl
  | cons item rest ih =>
      rw [ofItems, ih]
      rfl

namespace Reader

/-- A step that never fails maps the list. -/
theorem mapM_eq_some_map {β : Type} {step : α → Option β} {result : α → β} {list : List α}
    (hsteps : ∀ element ∈ list, step element = some (result element)) :
    list.mapM step = some (list.map result) := by
  induction list with
  | nil => rfl
  | cons first rest ih =>
      obtain ⟨hfirst, hrest⟩ := List.forall_mem_cons.mp hsteps
      rw [List.mapM_cons, hfirst, ih hrest]
      rfl

theorem all_isSome_ofMembers (members : Members) :
    (ofMembers members).all (fun member => member.1.isSome) = true := by
  rw [Document.ofMembers_eq, List.all_map]
  exact List.all_eq_true.mpr fun _ _ => rfl

/-- Members in order have at most one of a name. -/
theorem membersNamed_ofMembers (hordered : Members.Ordered members) :
    membersNamed name (ofMembers members) =
      ((Members.get? name members).map ofValue).toList := by
  induction members with
  | nil => rfl
  | cons member rest ih =>
      obtain ⟨key, value⟩ := member
      have hmore : membersNamed name (ofMembers rest) = _ := ih (Members.ordered_cons.mp hordered).2
      rw [membersNamed] at hmore ⊢
      by_cases hkey : key = name
      · have hnone : Members.get? name rest = none := hkey ▸ hordered.get?_rest
        rw [hnone] at hmore
        simp [ofMembers, Members.get?, hkey, hmore]
      · simp [ofMembers, Members.get?, hkey, hmore]

end Reader

/-- Where a value has the field of a record: the member of its name in an object, the item at
its place in an array. -/
def Value.slot (name : String) (place : Nat) : Value → Slot
  | .object members =>
    match Members.get? name members with
    | some value => .given (.ofValue value)
    | none => .absent
  | .array items =>
    match items[place]? with
    | some item => .given (.ofValue item)
    | none => .beyond
  | _ => .beyond

namespace Reader

/-- In an object the slot of a field is the member of its name. -/
theorem memberSlot_ofMembers (hordered : Members.Ordered members) (place : Nat) :
    memberSlot (ofMembers members) name = some ((Value.object members).slot name place) := by
  rw [memberSlot, membersNamed_ofMembers hordered, Value.slot]
  cases Members.get? name members <;> rfl

/-- The slots of the fields of a record are where its value has them. -/
theorem eq_slots_of_ofValue {names : List String} {slots : List Slot} {value : Value}
    (hordered : ∀ members, value = .object members → Members.Ordered members)
    (hslots : Reader.slots names dialect (.ofValue value) = some slots) :
    slots = names.zipIdx.map fun (name, place) => value.slot name place := by
  cases value with
  | object members =>
      have hmap : names.mapM (memberSlot (ofMembers members)) = some (names.zipIdx.map
          fun (name, place) => (Value.object members).slot name place) := by
        rw [← List.zipIdx_map_fst 0 names, List.mapM_map, List.zipIdx_map_fst]
        exact mapM_eq_some_map fun field _ => memberSlot_ofMembers (hordered members rfl) field.2
      rw [ofValue, Reader.slots, if_pos (all_isSome_ofMembers members), hmap] at hslots
      exact (Option.some.inj hslots).symm
  | array items =>
      rw [ofValue, Reader.slots] at hslots
      split at hslots
      · rw [← Option.some.inj hslots, Document.ofItems_eq]
        apply List.ext_getElem
        · simp
        · intro place hleft hright
          simp only [List.getElem_map, List.getElem_range, List.getElem?_map, List.getElem_zipIdx,
            Nat.zero_add, Value.slot]
          cases items[place]? <;> rfl
      · cases hslots
  | null => cases hslots
  | bool flag => cases hslots
  | number number => cases hslots
  | string text => cases hslots

/-- A record is read where it was written. -/
theorem slots_record (hnames : (pairs.map Prod.fst).Nodup) :
    Reader.slots (pairs.map Prod.fst) dialect (.ofValue (.record pairs)) =
      some (pairs.map fun pair => .given (.ofValue pair.2)) := by
  have hgiven (pair : String × Value) (hpair : pair ∈ pairs) :
      memberSlot (ofMembers (Members.ofList pairs)) pair.1 = some (.given (.ofValue pair.2)) := by
    rw [memberSlot_ofMembers (Members.ordered_ofList pairs) 0, Value.slot,
      Members.get?_ofList hnames, Members.get?_of_mem hnames hpair]
  rw [Value.record, ofValue, Reader.slots, if_pos (all_isSome_ofMembers _), List.mapM_map]
  exact mapM_eq_some_map hgiven

/-! ## Simple values -/

@[simp]
theorem bool_ofValue (flag : Bool) : Reader.bool dialect (.ofValue (.bool flag)) = some flag := rfl

@[simp]
theorem string_ofValue (text : String) :
    Reader.string dialect (.ofValue (.string text)) = some text := rfl

/-- A number below the bound is read back as it was. -/
theorem natural_ofValue {number bound : Nat} (hbound : number < bound) :
    Reader.natural bound dialect (.ofValue (.ofNat number)) = some number := by
  have hfits : (0 : Int) ≤ (number : Int) ∧ (number : Int) < (bound : Int) :=
    ⟨Int.natCast_nonneg number, Int.ofNat_lt.mpr hbound⟩
  rw [Value.ofNat, ofValue, Reader.natural, if_pos hfits, Int.toNat_natCast]

@[simp]
theorem word32_ofValue (word : UInt32) :
    Reader.word32 dialect (.ofValue (.ofNat word.toNat)) = some word := by
  rw [Reader.word32, natural_ofValue word.toNat_lt, Option.map_some, UInt32.ofNat_toNat]

@[simp]
theorem word64_ofValue (word : UInt64) :
    Reader.word64 dialect (.ofValue (.ofNat word.toNat)) = some word := by
  rw [Reader.word64, natural_ofValue word.toNat_lt, Option.map_some, UInt64.ofNat_toNat]

theorem option_of_ne_null {read : Reader α} {document : Document} (hpresent : document ≠ .null) :
    Reader.option read dialect document = (read dialect document).map some := by
  cases document with
  | null => exact absurd rfl hpresent
  | _ => rfl

/-- What is optional is read back if nothing that is there is written as null. -/
theorem option_ofValue {read : Reader α} {toValue : α → Value}
    (hpresent : ∀ content, ofValue (toValue content) ≠ .null)
    (hread : ∀ content, read dialect (.ofValue (toValue content)) = some content)
    (content : Option α) :
    Reader.option read dialect (.ofValue ((content.map toValue).getD .null)) = some content := by
  cases content with
  | none => rfl
  | some content =>
      rw [Option.map_some, Option.getD_some, option_of_ne_null (hpresent content), hread,
        Option.map_some]

/-- Members in order are read back, each by itself. -/
theorem entries_record {read : Reader α} {toValue : α → Value} {entries : List (String × α)}
    (hordered : Members.Ordered entries)
    (hread : ∀ content, read dialect (.ofValue (toValue content)) = some content) :
    Reader.entries read dialect
        (.ofValue (.record (entries.map fun (name, content) => (name, toValue content)))) =
      some entries := by
  have hfrom (seen : List (String × α)) :
      entriesFrom read dialect (ofMembers (entries.map fun (name, content) =>
          (name, toValue content))) seen =
        some (entries.foldl (fun entries (name, content) =>
          Members.insert name content entries) seen) := by
    clear hordered
    induction entries generalizing seen with
    | nil => rfl
    | cons entry rest ih =>
        obtain ⟨name, content⟩ := entry
        rw [List.map_cons, ofMembers, entriesFrom, hread]
        exact ih (Members.insert name content seen)
  rw [Value.record, (hordered.map toValue).ofList_eq, ofValue, Reader.entries, hfrom]
  exact congrArg some hordered.ofList_eq

/-- Entries are put in order as they are read. -/
theorem ordered_of_entries {read : Reader α} {document : Document} {entries : List (String × α)}
    (hread : Reader.entries read dialect document = some entries) : Members.Ordered entries := by
  have hfrom (members : List (Option String × Document)) (seen : List (String × α))
      (hseen : Members.Ordered seen)
      (hread : entriesFrom read dialect members seen = some entries) :
      Members.Ordered entries := by
    induction members generalizing seen with
    | nil =>
        cases hread
        exact hseen
    | cons member rest ih =>
        obtain ⟨_ | name, document⟩ := member
        · cases hread
        · rw [entriesFrom] at hread
          split at hread
          · exact ih _ (hseen.insert _ _) hread
          · cases hread
  cases document with
  | object members => exact hfrom members [] Members.ordered_nil hread
  | _ => cases hread

end Reader

/-! ## Durations -/

namespace Duration

/-- Whole seconds and what lies beyond them make the duration again. -/
@[simp]
theorem ofParts?_seconds_fraction (duration : Duration) :
    ofParts? duration.seconds duration.fraction = some duration := by
  simp only [ofParts?, seconds_mul_add_fraction, dif_pos duration.bounded]

/-- An object of the two parts is read as the duration that they make. -/
theorem read_object {members : List (Option String × Document)} {first second : Document}
    {seconds nanoseconds : Nat}
    (hknown : ∀ member ∈ members, member.1 = some "secs" ∨ member.1 = some "nanos")
    (hslots : Reader.slots ["secs", "nanos"] dialect (.object members) =
      some [.given first, .given second])
    (hfirst : Reader.natural (Nat.pow 2 64) dialect first = some seconds)
    (hsecond : Reader.natural (Nat.pow 2 32) dialect second = some nanoseconds) :
    Duration.read dialect (.object members) = ofParts? seconds nanoseconds := by
  have hall : (members.all fun member =>
      member.1 == some "secs" || member.1 == some "nanos") = true := by
    simpa only [List.all_eq_true, Bool.or_eq_true, beq_iff_eq] using hknown
  simp only [read, hall, if_true, hslots, Slot.required_given, hfirst, hsecond]

@[simp]
theorem read_toValue (duration : Duration) :
    Duration.read dialect (.ofValue duration.toValue) = some duration := by
  have hfraction : duration.fraction < Nat.pow 2 32 := duration.fraction_lt.trans (by decide)
  rw [← ofParts?_seconds_fraction duration]
  refine read_object ?_ (Reader.slots_record (by simp))
    (Reader.natural_ofValue duration.seconds_lt) (Reader.natural_ofValue hfraction)
  intro member hmember
  rw [Document.ofMembers_eq] at hmember
  obtain ⟨pair, hpair, rfl⟩ := List.mem_map.mp hmember
  rcases List.mem_pair.mp (Members.mem_ofList hpair) with rfl | rfl
  · exact .inl rfl
  · exact .inr rfl

end Duration
end Plugboard
