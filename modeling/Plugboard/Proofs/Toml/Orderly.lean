import Plugboard.Proofs.Data.Overlay
import Plugboard.Settings.Environment
import Plugboard.Toml.Parser

/-!
# What texts spell is in order

The values that a TOML text and the variables of the environment spell have the members of their
objects in the order of their keys, and null nowhere.  The tables of a text are so at every moment
while its lines are read, since every change to a table ends in an insertion.
-/

namespace Plugboard

variable {nullable : String → Prop}

namespace Value

/-- Nothing in the value is null, and the members of objects are in order. -/
abbrev Spelled (value : Value) : Prop := value.Orderly fun _ => False

theorem Spelled.orderly {value : Value} (hspelled : value.Spelled) : value.Orderly nullable := by
  induction hspelled with
  | bool flag => exact .bool flag
  | number number => exact .number number
  | string text => exact .string text
  | array _ ih => exact .array ih
  | object hordered _ ih => exact .object hordered fun member hmember _ => ih member hmember (·.2)

theorem spelled_object {members : Members} (hordered : Members.Ordered members)
    (hmembers : ∀ member ∈ members, member.2.Spelled) : (Value.object members).Spelled :=
  .object hordered fun member hmember _ => hmembers member hmember

theorem Spelled.members {members : Members} (hspelled : (Value.object members).Spelled) :
    Members.Ordered members ∧ ∀ member ∈ members, member.2.Spelled := by
  cases hspelled with
  | object hordered hmembers =>
      exact ⟨hordered, fun member hmember => hmembers member hmember (·.2)⟩

/-- A member inserted into an object in order leaves it in order. -/
theorem Spelled.insert {members : Members} {value : Value}
    (hspelled : (Value.object members).Spelled) (key : String) (hvalue : value.Spelled) :
    (Value.object (Members.insert key value members)).Spelled := by
  obtain ⟨hordered, hmembers⟩ := hspelled.members
  refine spelled_object (hordered.insert key value) fun member hmember => ?_
  rcases Members.mem_insert hmember with rfl | hmember
  · exact hvalue
  · exact hmembers member hmember

theorem spelled_empty : (Value.object []).Spelled :=
  spelled_object Members.ordered_nil (List.forall_mem_nil _)

theorem spelled_ofInt (value : Int) : (Value.ofInt value).Spelled := .number _

theorem spelled_reverse {items : List Value} (hitems : ∀ item ∈ items, item.Spelled) :
    (Value.array items.reverse).Spelled :=
  .array fun item hitem => hitems item (List.mem_reverse.mp hitem)

end Value

namespace Members

variable {α β : Type}

/-- A change of the values alone goes along with an insertion. -/
theorem map_insert (change : α → β) (key : String) (value : α) (members : List (String × α)) :
    (insert key value members).map (fun (key, value) => (key, change value)) =
      insert key (change value) (members.map fun (key, value) => (key, change value)) := by
  induction members with
  | nil => rfl
  | cons member rest ih =>
      simp only [insert, List.map_cons]
      split
      · rfl
      · split
        · rfl
        · rw [List.map_cons, ih]

end Members

/-! ## Tables under construction -/

namespace Toml

namespace Section

theorem toMembers_eq (table : Sections) :
    toMembers table = table.map fun (key, part) => (key, part.toValue) := by
  induction table with
  | nil => rw [toMembers, List.map_nil]
  | cons entry rest ih =>
      obtain ⟨key, part⟩ := entry
      rw [toMembers, ih, List.map_cons]

theorem toItems_eq (items : List Sections) :
    toItems items = items.map fun item => .object (toMembers item) := by
  induction items with
  | nil => rw [toItems, List.map_nil]
  | cons item rest ih => rw [toItems, ih, List.map_cons]

end Section

namespace Sections

def Spelled (table : Sections) : Prop := (Value.object (Section.toMembers table)).Spelled

theorem spelled_nil : Spelled [] := by
  rw [Spelled, Section.toMembers]
  exact Value.spelled_empty

variable {table outcome : Sections} {name : String} {act : Sections → Option Sections}

theorem Spelled.insert (hspelled : Spelled table) (name : String) {part : Section}
    (hpart : part.toValue.Spelled) : Spelled (Members.insert name part table) := by
  rw [Spelled, Section.toMembers_eq] at hspelled ⊢
  rw [Members.map_insert Section.toValue]
  exact Value.Spelled.insert hspelled name hpart

theorem Spelled.of_get? (hspelled : Spelled table) {part : Section}
    (hpart : Members.get? name table = some part) : part.toValue.Spelled := by
  rw [Spelled, Section.toMembers_eq] at hspelled
  exact hspelled.members.2 _ (List.mem_map_of_mem (Members.mem_of_get? hpart))

theorem Spelled.toValue {standing : Standing} (hspelled : Spelled table) :
    (Section.table standing table).toValue.Spelled := by
  rw [Section.toValue]
  exact hspelled

theorem Spelled.of_table {standing : Standing}
    (htable : (Section.table standing table).toValue.Spelled) : Spelled table := by
  rw [Section.toValue] at htable
  exact htable

theorem spelled_tables {items : List Sections} :
    (Section.tables items).toValue.Spelled ↔ ∀ item ∈ items, Spelled item := by
  rw [Section.toValue, Section.toItems_eq]
  constructor
  · intro hitems item hitem
    cases hitems with
    | array hitems => exact hitems _ (List.mem_map_of_mem hitem)
  · intro hitems
    exact .array (List.forall_mem_map.mpr hitems)

/-- The last table of a list may be replaced. -/
theorem spelled_replaced {items : List Sections} {last : Sections}
    (hitems : (Section.tables items).toValue.Spelled) (hlast : Spelled last) :
    (Section.tables (items.dropLast ++ [last])).toValue.Spelled := by
  rw [spelled_tables] at hitems ⊢
  intro item hitem
  rcases List.mem_append.mp hitem with hitem | hitem
  · exact hitems item (List.dropLast_subset items hitem)
  · exact List.mem_singleton.mp hitem ▸ hlast

/-- An outcome of a change to an inner table that is put back in its place. -/
theorem spelled_of_map_insert {inner : Option Sections} {wrap : Sections → Section}
    (hspelled : Spelled table) (hinner : ∀ changed, inner = some changed → Spelled changed)
    (hwrap : ∀ changed, Spelled changed → (wrap changed).toValue.Spelled)
    (houtcome : inner.map (fun changed => Members.insert name (wrap changed) table) =
      some outcome) : Spelled outcome := by
  obtain ⟨changed, hchanged, rfl⟩ := Option.map_eq_some_iff.mp houtcome
  exact hspelled.insert name (hwrap changed (hinner changed hchanged))

/-- What is done at the end of a way leaves the whole table in order if it leaves that part so. -/
theorem Spelled.change
    (hact : ∀ {table outcome}, Spelled table → act table = some outcome → Spelled outcome)
    {steps : List String} (hspelled : Spelled table)
    (houtcome : change act steps table = some outcome) : Spelled outcome := by
  induction steps generalizing table outcome with
  | nil => exact hact hspelled houtcome
  | cons step rest ih =>
      rw [Sections.change] at houtcome
      split at houtcome
      · exact spelled_of_map_insert hspelled (fun _ => ih spelled_nil) (fun _ => Spelled.toValue)
          houtcome
      · rename_i hpart
        exact spelled_of_map_insert hspelled (fun _ => ih (.of_table (hspelled.of_get? hpart)))
          (fun _ => Spelled.toValue) houtcome
      · rename_i items hpart
        split at houtcome
        · cases houtcome
        · rename_i last hlast
          have hitems := hspelled.of_get? hpart
          exact spelled_of_map_insert hspelled
            (fun _ => ih (spelled_tables.mp hitems last (List.mem_of_getLast? hlast)))
            (fun _ => spelled_replaced hitems) houtcome
      · cases houtcome

theorem Spelled.openTable (hspelled : Spelled table)
    (houtcome : openTable name table = some outcome) : Spelled outcome := by
  unfold Sections.openTable at houtcome
  split at houtcome
  · cases houtcome
    exact hspelled.insert name spelled_nil.toValue
  · rename_i hpart
    cases houtcome
    exact hspelled.insert name (Spelled.of_table (hspelled.of_get? hpart)).toValue
  · cases houtcome

theorem Spelled.openItem (hspelled : Spelled table)
    (houtcome : openItem name table = some outcome) : Spelled outcome := by
  unfold Sections.openItem at houtcome
  split at houtcome
  · cases houtcome
    exact hspelled.insert name (spelled_tables.mpr fun item hitem =>
      List.mem_singleton.mp hitem ▸ spelled_nil)
  · rename_i items hpart
    cases houtcome
    refine hspelled.insert name (spelled_tables.mpr fun item hitem => ?_)
    rcases List.mem_append.mp hitem with hitem | hitem
    · exact spelled_tables.mp (hspelled.of_get? hpart) item hitem
    · exact List.mem_singleton.mp hitem ▸ spelled_nil
  · cases houtcome

theorem Spelled.set {value : Value} (hvalue : value.Spelled) (hspelled : Spelled table)
    (houtcome : set name value table = some outcome) : Spelled outcome := by
  unfold Sections.set at houtcome
  split at houtcome
  · cases houtcome
    refine hspelled.insert name ?_
    rw [Section.toValue]
    exact hvalue
  · cases houtcome

theorem Spelled.setDotted {value : Value} (hvalue : value.Spelled) {steps : List String}
    (hspelled : Spelled table) (houtcome : setDotted name value steps table = some outcome) :
    Spelled outcome := by
  induction steps generalizing table outcome with
  | nil => exact hspelled.set hvalue houtcome
  | cons step rest ih =>
      rw [Sections.setDotted] at houtcome
      split at houtcome
      · exact spelled_of_map_insert hspelled (fun _ => ih spelled_nil) (fun _ => Spelled.toValue)
          houtcome
      · rename_i hpart
        split at houtcome
        · cases houtcome
        · exact spelled_of_map_insert hspelled (fun _ => ih (.of_table (hspelled.of_get? hpart)))
            (fun _ => Spelled.toValue) houtcome
      · rename_i items hpart
        split at houtcome
        · cases houtcome
        · rename_i last hlast
          have hitems := hspelled.of_get? hpart
          split at houtcome
          · cases houtcome
          · exact spelled_of_map_insert hspelled
              (fun _ => ih (spelled_tables.mp hitems last (List.mem_of_getLast? hlast)))
              (fun _ => spelled_replaced hitems) houtcome
      · cases houtcome

end Sections

/-! ## Texts -/

theorem spelled_of_fitting {number : Int} {content : Value}
    (hcontent : fitting number = some content) : content.Spelled := by
  unfold fitting at hcontent
  split at hcontent
  · cases hcontent
    exact Value.spelled_ofInt number
  · cases hcontent

theorem spelled_of_integer? {word : List Char} {content : Value}
    (hcontent : integer? word = some content) : content.Spelled := by
  unfold integer? at hcontent
  split at hcontent
  all_goals
    obtain ⟨digits, -, hfitting⟩ := Option.bind_eq_some_iff.mp hcontent
    exact spelled_of_fitting hfitting

theorem spelled_of_float? {word : List Char} {content : Value}
    (hcontent : float? word = some content) : content.Spelled := by
  dsimp only [float?] at hcontent
  split at hcontent
  · cases hcontent
    exact .number _
  · cases hcontent
    exact .number _
  · split at hcontent
    · obtain ⟨number, -, rfl⟩ := Option.map_eq_some_iff.mp hcontent
      exact .number _
    · cases hcontent

theorem spelled_of_moment? {word : List Char} {content : Value}
    (hcontent : moment? word = some content) : content.Spelled := by
  unfold moment? at hcontent
  split at hcontent
  · cases hcontent
    exact Value.spelled_object (Members.ordered_ofList _) fun member hmember =>
      List.mem_singleton.mp (Members.mem_ofList hmember) ▸ .string _
  · cases hcontent

theorem spelled_of_bareWord? {word : List Char} {content : Value}
    (hcontent : bareWord? word = some content) : content.Spelled := by
  unfold bareWord? at hcontent
  split at hcontent
  · cases hcontent
    exact .bool true
  · cases hcontent
    exact .bool false
  · simp only [Option.orElse_eq_orElse, Option.orElse_eq_or, Option.or_eq_some_iff] at hcontent
    rcases hcontent with hmoment | ⟨-, hfloat | ⟨-, hinteger⟩⟩
    · exact spelled_of_moment? hmoment
    · exact spelled_of_float? hfloat
    · exact spelled_of_integer? hinteger

/-- What the functions for values read with this much fuel is in order. -/
structure ReadsInOrder (fuel : Nat) : Prop where
  value : ∀ {depth input content rest},
    value fuel depth input = some (content, rest) → content.Spelled
  items : ∀ {depth seen input content rest}, (∀ item ∈ seen, Value.Spelled item) →
    items fuel depth seen input = some (content, rest) → content.Spelled
  members : ∀ {depth seen input content rest}, Sections.Spelled seen →
    members fuel depth seen input = some (content, rest) → content.Spelled

namespace ReadsInOrder

variable {fuel depth : Nat} {input rest : List Char} {content : Value}

theorem value_succ (hfuel : ReadsInOrder fuel)
    (hcontent : Toml.value (fuel + 1) depth input = some (content, rest)) : content.Spelled := by
  unfold Toml.value at hcontent
  split at hcontent
  · obtain ⟨text, -, htext⟩ := Option.map_eq_some_iff.mp hcontent
    cases htext
    exact .string _
  · split at hcontent
    · exact hfuel.items (List.forall_mem_nil _) hcontent
    · split at hcontent
      · cases hcontent
        exact Value.spelled_empty
      · exact hfuel.members Sections.spelled_nil hcontent
    · obtain ⟨word, hword, hboth⟩ := Option.map_eq_some_iff.mp hcontent
      cases hboth
      exact spelled_of_bareWord? hword

theorem items_succ (hfuel : ReadsInOrder fuel) {seen : List Value}
    (hseen : ∀ item ∈ seen, item.Spelled)
    (hcontent : Toml.items (fuel + 1) depth seen input = some (content, rest)) :
    content.Spelled := by
  rw [Toml.items] at hcontent
  split at hcontent
  · cases hcontent
    exact Value.spelled_reverse hseen
  · split at hcontent
    · cases hcontent
    · rename_i item after hitem
      have hmore := List.forall_mem_cons.mpr ⟨hfuel.value hitem, hseen⟩
      split at hcontent
      · exact hfuel.items hmore hcontent
      · cases hcontent
        exact Value.spelled_reverse hmore
      · cases hcontent

theorem members_succ (hfuel : ReadsInOrder fuel) {seen : Sections} (hseen : seen.Spelled)
    (hcontent : Toml.members (fuel + 1) depth seen input = some (content, rest)) :
    content.Spelled := by
  rw [Toml.members] at hcontent
  split at hcontent
  · cases hcontent
  · split at hcontent
    · cases hcontent
    · rename_i item after hitem
      split at hcontent
      · cases hcontent
      · rename_i table htable
        have hmore := hseen.setDotted (hfuel.value hitem) htable
        split at hcontent
        · exact hfuel.members hmore hcontent
        · cases hcontent
          exact hmore
        · cases hcontent

end ReadsInOrder

/-- Whatever the functions for values read is in order. -/
theorem readsInOrder (fuel : Nat) : ReadsInOrder fuel := by
  induction fuel with
  | zero =>
      constructor
      · simp [value]
      · simp [items]
      · simp [members]
  | succ fuel ih => exact ⟨ih.value_succ, ih.items_succ, ih.members_succ⟩

theorem spelled_of_lines {fuel : Nat} {current : List String} {root outcome : Sections}
    {input : List Char} (hroot : root.Spelled)
    (houtcome : lines fuel current root input = some outcome) : outcome.Spelled := by
  induction fuel generalizing current root input with
  | zero => simp [lines] at houtcome
  | succ fuel ih =>
      rw [lines] at houtcome
      split at houtcome
      · cases houtcome
        exact hroot
      · split at houtcome
        · cases houtcome
        · split at houtcome
          · cases houtcome
          · rename_i changed hchanged
            exact ih (hroot.change Sections.Spelled.openItem hchanged) houtcome
      · split at houtcome
        · cases houtcome
        · split at houtcome
          · cases houtcome
          · rename_i changed hchanged
            exact ih (hroot.change Sections.Spelled.openTable hchanged) houtcome
      · split at houtcome
        · split at houtcome
          · cases houtcome
          · exact ih hroot houtcome
        · split at houtcome
          · cases houtcome
          · split at houtcome
            · cases houtcome
            · rename_i content after hcontent
              split at houtcome
              · rename_i changed hnext hchanged
                have hspelled := (readsInOrder _).value hcontent
                exact ih (hroot.change (Sections.Spelled.setDotted hspelled) hchanged) houtcome
              · cases houtcome

/-- A file that is read is an object in order. -/
theorem spelled_of_parse? {text : String} {members : Members}
    (hmembers : parse? text = some members) : (Value.object members).Spelled := by
  obtain ⟨table, htable, rfl⟩ := Option.map_eq_some_iff.mp hmembers
  exact spelled_of_lines Sections.spelled_nil htable

end Toml

/-! ## Variables -/

namespace VariableText

theorem spelled_bareWord (word : List Char) : (bareWord word).Spelled := by
  unfold bareWord
  split
  · exact .number _
  · exact Value.spelled_ofInt _
  · exact .string _

/-- What the functions for values read with this much fuel is in order. -/
structure ReadsInOrder (fuel : Nat) : Prop where
  value : ∀ {input content rest}, value fuel input = some (content, rest) → content.Spelled
  items : ∀ {seen input content rest}, (∀ item ∈ seen, Value.Spelled item) →
    items fuel seen input = some (content, rest) → content.Spelled
  entries : ∀ {seen input content rest}, (Value.object seen).Spelled →
    entries fuel seen input = some (content, rest) → content.Spelled

namespace ReadsInOrder

variable {fuel : Nat} {input rest : List Char} {content : Value}

theorem value_succ (hfuel : ReadsInOrder fuel)
    (hcontent : VariableText.value (fuel + 1) input = some (content, rest)) :
    content.Spelled := by
  rw [VariableText.value] at hcontent
  obtain ⟨⟨inner, after⟩, hinner, hboth⟩ := Option.map_eq_some_iff.mp hcontent
  cases hboth
  split at hinner
  · cases hinner
    exact .bool true
  · cases hinner
    exact .bool false
  · exact hfuel.items (List.forall_mem_nil _) hinner
  · exact hfuel.entries Value.spelled_empty hinner
  · obtain ⟨text, -, htext⟩ := Option.map_eq_some_iff.mp hinner
    cases htext
    exact .string _
  · cases hinner
    exact .string _
  · cases hinner
  · rw [← (Prod.mk.inj (Option.some.inj hinner)).1]
    exact spelled_bareWord _

theorem items_succ (hfuel : ReadsInOrder fuel) {seen : List Value}
    (hseen : ∀ item ∈ seen, item.Spelled)
    (hcontent : VariableText.items (fuel + 1) seen input = some (content, rest)) :
    content.Spelled := by
  unfold VariableText.items at hcontent
  split at hcontent
  · cases hcontent
    exact Value.spelled_reverse hseen
  · split at hcontent
    · rename_i item after hitem
      exact hfuel.items (List.forall_mem_cons.mpr ⟨hfuel.value hitem, hseen⟩) hcontent
    · rename_i item after hitem
      cases hcontent
      exact Value.spelled_reverse (List.forall_mem_cons.mpr ⟨hfuel.value hitem, hseen⟩)
    · cases hcontent

theorem entries_succ (hfuel : ReadsInOrder fuel) {seen : Members}
    (hseen : (Value.object seen).Spelled)
    (hcontent : VariableText.entries (fuel + 1) seen input = some (content, rest)) :
    content.Spelled := by
  unfold VariableText.entries at hcontent
  split at hcontent
  · cases hcontent
    exact hseen
  · split at hcontent
    · cases hcontent
    · split at hcontent
      · rename_i item after hitem
        exact hfuel.entries (hseen.insert _ (hfuel.value hitem)) hcontent
      · rename_i item after hitem
        cases hcontent
        exact hseen.insert _ (hfuel.value hitem)
      · cases hcontent

end ReadsInOrder

/-- Whatever is read of variables is in order. -/
theorem readsInOrder (fuel : Nat) : ReadsInOrder fuel := by
  induction fuel with
  | zero =>
      constructor
      · simp [value]
      · simp [items]
      · simp [entries]
  | succ fuel ih => exact ⟨ih.value_succ, ih.items_succ, ih.entries_succ⟩

theorem spelled_read (text : String) : (read text).Spelled := by
  dsimp only [read]
  split
  · rename_i content hcontent
    exact (readsInOrder _).value hcontent
  · exact .string text

end VariableText

theorem Value.Orderly.stacked {lowest : Value} {layers : List Value}
    (hlowest : lowest.Orderly nullable) (hlayers : ∀ layer ∈ layers, layer.Orderly nullable) :
    (Value.stacked lowest layers).Orderly nullable := by
  induction layers generalizing lowest with
  | nil => exact hlowest
  | cons layer rest ih =>
      obtain ⟨hlayer, hrest⟩ := List.forall_mem_cons.mp hlayers
      exact ih (hlayer.overlay hlowest) hrest

namespace Environment

theorem spelled_nested {content : Value} (hcontent : content.Spelled) (steps : List String) :
    (nested content steps).Spelled := by
  induction steps with
  | nil => exact hcontent
  | cons step rest ih => exact Value.spelled_empty.insert step ih

/-- The layer of the environment is in order. -/
theorem spelled_layer (environment : List (String × String)) : (layer environment).Spelled := by
  refine Value.spelled_empty.stacked fun content hcontent => ?_
  obtain ⟨⟨name, text⟩, -, hlayer⟩ := List.mem_filterMap.mp hcontent
  obtain ⟨steps, -, rfl⟩ := Option.map_eq_some_iff.mp hlayer
  exact spelled_nested (VariableText.spelled_read text) steps

end Environment
end Plugboard
