import Mathlib.Data.List.Basic
import Plugboard.Declaration.Derive

/-!
# Violations in a declaration

All that a declaration does against the rules, listed by where it stands: first the entries on the
type, then the name they give, then field by field.  Each step of the derivation stops at the first
violation of the part it reads, and without one takes from that part what was given last.
-/

namespace Plugboard

/-- The first violation, or, without any, a value. -/
def unlessViolated {α : Type} (violations : List DeclarationError) (value : α) :
    Except DeclarationError α :=
  match violations with
  | [] => .ok value
  | violation :: _ => .error violation

theorem unlessViolated_eq_ok {α : Type} {violations : List DeclarationError} {value result : α} :
    unlessViolated violations value = .ok result ↔ violations = [] ∧ value = result := by
  cases violations <;> simp [unlessViolated]

theorem unlessViolated_eq_error {α : Type} {violations : List DeclarationError} {value : α}
    {violation : DeclarationError} :
    unlessViolated violations value = .error violation ↔ violations.head? = some violation := by
  cases violations <;> simp [unlessViolated]

/-! ## Entries on the type -/

namespace AttributeItem

def given? (item : AttributeItem) : Option String :=
  match item.literal with
  | some (.text value) => some value
  | _ => none

def name? (item : AttributeItem) : Option String :=
  if item.key = "name" then item.given? else none

def libraryPath? (item : AttributeItem) : Option (List TokenTree) :=
  if item.key = "crate" then item.given?.bind fun text => (Declaration.readPath text).toOption
  else none

/-- An entry that may stand on the type: a name, or the path of the library. -/
def IsOption (item : AttributeItem) : Prop :=
  (item.key = "name" ∧ ∃ name, item.literal = some (.text name)) ∨
    (item.key = "crate" ∧ ∃ text path, item.literal = some (.text text) ∧
      Declaration.readPath text = .ok path)

/-- What is wrong with the way an entry is set to a text. -/
def textViolation? (item : AttributeItem) : Option DeclarationError :=
  match item.literal with
  | none => some .equalsExpected
  | some .other => some .textExpected
  | some (.text _) => none

def pathViolation? (item : AttributeItem) : Option DeclarationError :=
  item.given?.bind fun text =>
    match Declaration.readPath text with
    | .error fault => some (.badPath fault)
    | .ok _ => none

/-- What an entry on the type does against the rules. -/
def optionViolation? (item : AttributeItem) : Option DeclarationError :=
  if item.key = "name" then item.textViolation?
  else if item.key = "crate" then item.textViolation?.or item.pathViolation?
  else some .unknownOption

/-- An entry without violations is one that may stand on the type. -/
theorem optionViolation?_eq_none {item : AttributeItem} :
    item.optionViolation? = none ↔ item.IsOption := by
  obtain ⟨key, literal⟩ := item
  by_cases hname : key = "name"
  · subst hname
    rcases literal with _ | (text | _) <;> simp [optionViolation?, textViolation?, IsOption]
  · by_cases hcrate : key = "crate"
    · subst hcrate
      rcases literal with _ | (text | _)
      · simp [optionViolation?, textViolation?, IsOption]
      · cases hpath : Declaration.readPath text <;>
          simp [optionViolation?, textViolation?, pathViolation?, given?, IsOption, hpath]
      · simp [optionViolation?, textViolation?, IsOption]
    · simp [optionViolation?, IsOption, hname, hcrate]

end AttributeItem

namespace DeclarationOptions

/-- An entry that follows the rules is taken into account. -/
theorem add_eq (options : DeclarationOptions) (item : AttributeItem) :
    options.add item = unlessViolated item.optionViolation?.toList
      ⟨item.name?.or options.name, item.libraryPath?.getD options.libraryPath⟩ := by
  obtain ⟨key, literal⟩ := item
  by_cases hname : key = "name"
  · subst hname
    rcases literal with _ | (text | _) <;> rfl
  · by_cases hcrate : key = "crate"
    · subst hcrate
      rcases literal with _ | (text | _)
      · rfl
      · have hadd : options.add ⟨"crate", some (.text text)⟩ =
            match Declaration.readPath text with
            | .error fault => .error (.badPath fault)
            | .ok path => .ok { options with libraryPath := path } := rfl
        have hviolation : AttributeItem.optionViolation? ⟨"crate", some (.text text)⟩ =
            match Declaration.readPath text with
            | .error fault => some (.badPath fault)
            | .ok _ => none := rfl
        have hgiven : AttributeItem.libraryPath? ⟨"crate", some (.text text)⟩ =
            (Declaration.readPath text).toOption := rfl
        rw [hadd, hviolation, hgiven]
        cases Declaration.readPath text <;> rfl
      · rfl
    · simp [add, AttributeItem.optionViolation?, hname, hcrate, unlessViolated]

/-- Of what entries are set to, the last counts. -/
theorem getLast?_filterMap_cons {α : Type} (given? : AttributeItem → Option α)
    (item : AttributeItem) (rest : List AttributeItem) :
    ((item :: rest).filterMap given?).getLast? =
      (rest.filterMap given?).getLast?.or (given? item) := by
  rw [List.filterMap_cons]
  cases given? item with
  | none => exact Option.or_none.symm
  | some value =>
      rw [List.getLast?_cons]
      cases (rest.filterMap given?).getLast? <;> rfl

/-- Entries are taken until one does not follow the rules; of those that are set to the same thing
the last counts. -/
theorem addAll_eq (options : DeclarationOptions) (items : List AttributeItem) :
    options.addAll items = unlessViolated (items.filterMap AttributeItem.optionViolation?)
      ⟨(items.filterMap AttributeItem.name?).getLast?.or options.name,
        (items.filterMap AttributeItem.libraryPath?).getLast?.getD options.libraryPath⟩ := by
  induction items generalizing options with
  | nil => rfl
  | cons item rest ih =>
      rw [addAll, add_eq]
      cases hviolation : item.optionViolation? with
      | some violation =>
          rw [List.filterMap_cons_some hviolation]
          rfl
      | none =>
          rw [List.filterMap_cons_none hviolation, getLast?_filterMap_cons,
            getLast?_filterMap_cons, Option.or_assoc, Option.getD_or]
          exact ih _

end DeclarationOptions

namespace Declaration

/-- The last name that the entries on a type give. -/
def lastName? (declaration : Declaration) : Option String :=
  ((Attribute.ownItems declaration.attributes).filterMap AttributeItem.name?).getLast?

/-- The last path of the library that the entries on a type give, or the one that is used without
any. -/
def lastLibraryPath (declaration : Declaration) : List TokenTree :=
  ((Attribute.ownItems declaration.attributes).filterMap AttributeItem.libraryPath?).getLast?.getD
    DeclarationOptions.standard.libraryPath

def nameViolations (declaration : Declaration) : List DeclarationError :=
  if declaration.lastName?.any Text.allBlank then [.blankName] else []

def optionViolations (declaration : Declaration) : List DeclarationError :=
  (Attribute.ownItems declaration.attributes).filterMap AttributeItem.optionViolation? ++
    declaration.nameViolations

/-- What the attributes on a type ask for is what they give last, unless something is against the
rules. -/
theorem options_eq (declaration : Declaration) :
    Declaration.options declaration.attributes = unlessViolated declaration.optionViolations
      ⟨declaration.lastName?, declaration.lastLibraryPath⟩ := by
  have hname : ((Attribute.ownItems declaration.attributes).filterMap
      AttributeItem.name?).getLast?.or DeclarationOptions.standard.name = declaration.lastName? :=
    Option.or_none
  have hpath : ((Attribute.ownItems declaration.attributes).filterMap
      AttributeItem.libraryPath?).getLast?.getD DeclarationOptions.standard.libraryPath =
        declaration.lastLibraryPath := rfl
  rw [Declaration.options, DeclarationOptions.addAll_eq, hname, hpath, optionViolations,
    nameViolations]
  cases (Attribute.ownItems declaration.attributes).filterMap AttributeItem.optionViolation? with
  | cons violation rest => rfl
  | nil =>
      cases hlast : declaration.lastName? with
      | none => rfl
      | some name => cases hblank : Text.allBlank name <;> simp [unlessViolated, hblank]

end Declaration

/-! ## Entries on the fields -/

namespace AttributeItem

def markViolation? (item : AttributeItem) : Option DeclarationError :=
  if item.key ≠ "interruptible" then some .unknownMark
  else if item.literal.isSome then some .markWithLiteral
  else none

end AttributeItem

namespace DeclaredField

/-- The entries of a field that are meant for this library. -/
def ownItems (field : DeclaredField) : List AttributeItem := Attribute.ownItems field.attributes

/-- Some entry marks the field as the one that holds the state of an interruption. -/
def marks (field : DeclaredField) : Bool :=
  field.ownItems.any fun item => item.key = "interruptible"

def entryViolations (field : DeclaredField) : List DeclarationError :=
  field.ownItems.filterMap AttributeItem.markViolation?

theorem markFault?_eq (items : List AttributeItem) :
    markFault? items = (items.filterMap AttributeItem.markViolation?).head? := by
  induction items with
  | nil => rfl
  | cons item rest ih =>
      rw [markFault?, List.filterMap_cons, AttributeItem.markViolation?]
      by_cases hkey : item.key = "interruptible"
      · cases hliteral : item.literal with
        | none => simp [hkey, ih]
        | some literal => simp [hkey]
      · simp [hkey]

theorem isMarked_eq (field : DeclaredField) :
    field.isMarked = unlessViolated field.entryViolations field.marks := by
  have hfault : markFault? (Attribute.ownItems field.attributes) = field.entryViolations.head? :=
    markFault?_eq _
  simp only [isMarked, hfault]
  cases hviolations : field.entryViolations with
  | cons violation rest => rfl
  | nil =>
      have hkeys : ∀ item ∈ field.ownItems, item.key = "interruptible" := by
        intro item hitem
        have hnone := List.filterMap_eq_nil_iff.mp hviolations item hitem
        by_contra hkey
        simp [AttributeItem.markViolation?, hkey] at hnone
      have hmarks : field.marks = !field.ownItems.isEmpty := by
        rw [marks]
        cases hitems : field.ownItems with
        | nil => rfl
        | cons item rest =>
            have hkey := hkeys item (hitems ▸ List.mem_cons_self)
            simp [hkey]
      rw [hmarks]
      rfl

/-- What fields by name or by position do against the rules, with other fields before them. -/
def recordViolations (before : List DeclaredField) : List DeclaredField → List DeclarationError
  | [] => []
  | field :: rest =>
    field.entryViolations ++ (if field.marks && before.any marks then [.secondMark] else []) ++
      recordViolations (before ++ [field]) rest

def variantViolations (fields : List DeclaredField) : List DeclarationError :=
  fields.flatMap fun field =>
    field.entryViolations ++ if field.marks then [.markOutsideRecord] else []

def firstMarked? (index : Nat) (fields : List DeclaredField) : Option FieldReference :=
  ((fields.zipIdx index).find? fun place => place.1.marks).map fun place =>
    place.1.reference place.2

/-- Fields are read up to the first violation; without one the first marked field is found. -/
theorem markedFrom_eq (index : Nat) {found : Option FieldReference} {before : List DeclaredField}
    (hfound : found.isSome = before.any marks) (fields : List DeclaredField) :
    markedFrom index found fields =
      unlessViolated (recordViolations before fields) (found.or (firstMarked? index fields)) := by
  -- `before` grows by each field that is passed and so knows whether one of them was marked.
  induction fields generalizing index found before with
  | nil => rw [markedFrom, recordViolations, firstMarked?, List.zipIdx_nil, List.find?_nil,
      Option.map_none, Option.or_none, unlessViolated]
  | cons field rest ih =>
      unfold markedFrom
      rw [recordViolations, isMarked_eq, firstMarked?, List.zipIdx_cons]
      cases field.entryViolations with
      | cons violation others => rfl
      | nil =>
          cases hmarks : field.marks with
          | false =>
              have hbefore : found.isSome = (before ++ [field]).any marks := by
                simp [hfound, hmarks]
              rw [List.find?_cons_of_neg (by simp [hmarks])]
              exact ih (index + 1) hbefore
          | true =>
              rw [List.find?_cons_of_pos (by simp [hmarks]), ← hfound]
              cases found with
              | some earlier => rfl
              | none => exact ih (index + 1) (by simp [hmarks])

theorem noneMarked_eq (fields : List DeclaredField) :
    noneMarked fields = unlessViolated (variantViolations fields) () := by
  induction fields with
  | nil => rfl
  | cons field rest ih =>
      rw [noneMarked, isMarked_eq, variantViolations, List.flatMap_cons]
      cases field.entryViolations with
      | cons violation others => rfl
      | nil =>
          cases field.marks with
          | true => rfl
          | false => exact ih

end DeclaredField

namespace DeclaredShape

def violations : DeclaredShape → List DeclarationError
  | .record fields => DeclaredField.recordViolations [] fields
  | .variants alternatives => DeclaredField.variantViolations alternatives.flatten
  | .union _ => [.union]

def firstMarked? : DeclaredShape → Option FieldReference
  | .record fields => DeclaredField.firstMarked? 0 fields
  | .variants _ | .union _ => none

theorem stateField_eq (shape : DeclaredShape) :
    shape.stateField = unlessViolated shape.violations shape.firstMarked? := by
  cases shape with
  | record fields => exact DeclaredField.markedFrom_eq 0 rfl fields
  | variants alternatives =>
      rw [stateField, DeclaredField.noneMarked_eq, violations]
      cases DeclaredField.variantViolations alternatives.flatten <;> rfl
  | union fields => rfl

end DeclaredShape

namespace Declaration

/-- All that a declaration does against the rules, in the order in which it is read. -/
def violations (declaration : Declaration) : List DeclarationError :=
  declaration.optionViolations ++ declaration.shape.violations

/-- A declaration is read up to the first violation; without one the implementations are made. -/
theorem derive_eq (declaration : Declaration) :
    declaration.derive = unlessViolated declaration.violations
      (declaration.implementations ⟨declaration.lastName?, declaration.lastLibraryPath⟩
        declaration.shape.firstMarked?) := by
  rw [derive, options_eq, DeclaredShape.stateField_eq, violations]
  cases declaration.optionViolations with
  | cons violation rest => rfl
  | nil => cases declaration.shape.violations <;> rfl

end Declaration
end Plugboard
