import Mathlib.Data.List.Zip
import Mathlib.Data.Option.Basic
import Plugboard.Proofs.Declaration.NameLiteral
import Plugboard.Proofs.Declaration.Violations

/-!
# What a valid declaration is given

A declaration without violations is given the implementations of a point: with the last name that
is written, and with access to the one field that is marked.
-/

namespace Plugboard

/-! ## Fields without violations -/

namespace DeclaredField

def NotBothMarked (first second : DeclaredField) : Prop :=
  ¬ (first.marks = true ∧ second.marks = true)

theorem entryViolations_eq_nil {field : DeclaredField} : field.entryViolations = [] ↔
    ∀ item ∈ field.ownItems, item.key = "interruptible" ∧ item.literal = none := by
  rw [entryViolations, List.filterMap_eq_nil_iff]
  refine forall₂_congr fun item _ => ?_
  by_cases hkey : item.key = "interruptible" <;> simp [AttributeItem.markViolation?, hkey]

/-- Fields of which no two are marked stay so with one more, unless it is marked and one of them
is. -/
theorem pairwise_concat {before : List DeclaredField} (hbefore : before.Pairwise NotBothMarked)
    {field : DeclaredField} :
    (before ++ [field]).Pairwise NotBothMarked ↔ (field.marks && before.any marks) = false := by
  rw [List.pairwise_append]
  simp only [hbefore, List.pairwise_singleton, true_and, List.forall_mem_singleton, NotBothMarked]
  rw [Bool.and_eq_false_imp, List.any_eq_false]
  grind

/-- Fields of a record are valid if their entries are and no two of them are marked. -/
theorem recordViolations_eq_nil {before : List DeclaredField}
    (hbefore : before.Pairwise NotBothMarked) (fields : List DeclaredField) :
    recordViolations before fields = [] ↔
      (∀ field ∈ fields, field.entryViolations = []) ∧
        (before ++ fields).Pairwise NotBothMarked := by
  induction fields generalizing before with
  | nil => simp [recordViolations, hbefore]
  | cons field rest ih =>
      have hsplit : before ++ field :: rest = (before ++ [field]) ++ rest := by simp
      rw [recordViolations, List.append_eq_nil_iff, List.append_eq_nil_iff,
        List.forall_mem_cons, hsplit]
      by_cases hsecond : (field.marks && before.any marks) = true
      · have hboth : ¬ ((before ++ [field]) ++ rest).Pairwise NotBothMarked := by
          intro hpairwise
          have hfield := (pairwise_concat hbefore).mp (List.pairwise_append.mp hpairwise).1
          exact Bool.false_ne_true (hfield.symm.trans hsecond)
        refine iff_of_false (fun hnone => ?_) (fun hpairwise => hboth hpairwise.2)
        rw [if_pos hsecond] at hnone
        cases hnone.1.2
      · rw [if_neg hsecond, ih ((pairwise_concat hbefore).mpr (Bool.eq_false_iff.mpr hsecond))]
        simp [and_assoc]

theorem variantViolations_eq_nil {fields : List DeclaredField} :
    variantViolations fields = [] ↔
      ∀ field ∈ fields, field.entryViolations = [] ∧ field.marks = false := by
  rw [variantViolations, List.flatMap_eq_nil_iff]
  refine forall₂_congr fun field _ => ?_
  rw [List.append_eq_nil_iff]
  cases field.marks <;> simp

theorem not_lt_of_marks {fields : List DeclaredField} (hsingle : fields.Pairwise NotBothMarked)
    {earlier later : Nat} {first second : DeclaredField} (hfirst : fields[earlier]? = some first)
    (hsecond : fields[later]? = some second) (hmarks : first.marks = true)
    (hother : second.marks = true) : ¬ earlier < later := by
  obtain ⟨hearlier, rfl⟩ := List.getElem?_eq_some_iff.mp hfirst
  obtain ⟨hlater, rfl⟩ := List.getElem?_eq_some_iff.mp hsecond
  intro hlt
  exact List.pairwise_iff_getElem.mp hsingle earlier later hearlier hlater hlt ⟨hmarks, hother⟩

/-- Where no two fields are marked, the first that is marked is the only one. -/
theorem firstMarked?_eq_some {fields : List DeclaredField}
    (hsingle : fields.Pairwise NotBothMarked) {reference : FieldReference} :
    firstMarked? 0 fields = some reference ↔ ∃ (index : Nat) (field : DeclaredField),
      fields[index]? = some field ∧ field.marks = true ∧ reference = field.reference index := by
  have hplace {place : DeclaredField × Nat} : place ∈ fields.zipIdx 0 ↔
      fields[place.2]? = some place.1 := List.mem_zipIdx_iff_getElem?
  rw [firstMarked?, Option.map_eq_some_iff]
  constructor
  · rintro ⟨⟨field, index⟩, hfind, rfl⟩
    have hmarks := List.find?_some hfind
    exact ⟨index, field, hplace.mp (List.mem_of_find?_eq_some hfind), hmarks, rfl⟩
  · rintro ⟨index, field, hfield, hmarks, rfl⟩
    have hsome : ((fields.zipIdx 0).find? fun place => place.1.marks).isSome = true :=
      List.find?_isSome.mpr ⟨(field, index), hplace.mpr hfield, hmarks⟩
    obtain ⟨⟨first, position⟩, hfind⟩ := Option.isSome_iff_exists.mp hsome
    have hfirst := hplace.mp (List.mem_of_find?_eq_some hfind)
    have hfirstMarks := List.find?_some hfind
    have hsame : position = index := Nat.le_antisymm
      (Nat.not_lt.mp (not_lt_of_marks hsingle hfield hfirst hmarks hfirstMarks))
      (Nat.not_lt.mp (not_lt_of_marks hsingle hfirst hfield hfirstMarks hmarks))
    subst hsame
    obtain rfl : first = field := Option.some.inj (hfirst.symm.trans hfield)
    exact ⟨_, hfind, rfl⟩

end DeclaredField

/-! ## Valid declarations -/

namespace DeclaredShape

/-- A shape is valid, where `isMark` tells the entries that a field may have: at most one field of a
record is marked and no field of an alternative, and the shape is no union. -/
def Valid (isMark : AttributeItem → Prop) : DeclaredShape → Prop
  | .record fields => (∀ field ∈ fields, ∀ item ∈ field.ownItems, isMark item) ∧
      fields.Pairwise DeclaredField.NotBothMarked
  | .variants alternatives => ∀ field ∈ alternatives.flatten,
      (∀ item ∈ field.ownItems, isMark item) ∧ field.marks = false
  | .union _ => False

/-- A shape without violations is a valid one. -/
theorem violations_eq_nil {shape : DeclaredShape} : shape.violations = [] ↔
    shape.Valid fun item => item.key = "interruptible" ∧ item.literal = none := by
  cases shape with
  | record fields =>
      rw [violations, DeclaredField.recordViolations_eq_nil .nil]
      exact and_congr_left fun _ =>
        forall₂_congr fun _ _ => DeclaredField.entryViolations_eq_nil
  | variants alternatives =>
      rw [violations, DeclaredField.variantViolations_eq_nil]
      exact forall₂_congr fun _ _ => and_congr_left fun _ => DeclaredField.entryViolations_eq_nil
  | union fields => exact iff_of_false (List.cons_ne_nil _ _) id

/-- What holds the state of an interruption: a marked field of a record, by its name or by its
position among all fields. -/
def IsStateField (shape : DeclaredShape) (reference : FieldReference) : Prop :=
  ∃ (fields : List DeclaredField) (index : Nat) (field : DeclaredField),
    shape = .record fields ∧ fields[index]? = some field ∧ field.marks = true ∧
      reference = field.reference index

/-- In a valid shape the field that is marked first is the one that holds the state. -/
theorem firstMarked?_eq_some {shape : DeclaredShape} {isMark : AttributeItem → Prop}
    (hvalid : shape.Valid isMark) (reference : FieldReference) :
    shape.firstMarked? = some reference ↔ shape.IsStateField reference := by
  cases shape with
  | record fields =>
      rw [firstMarked?, DeclaredField.firstMarked?_eq_some hvalid.2]
      constructor
      · rintro ⟨index, field, hfield⟩
        exact ⟨fields, index, field, rfl, hfield⟩
      · rintro ⟨_, index, field, hrecord, hfield⟩
        cases hrecord
        exact ⟨index, field, hfield⟩
  | variants _ | union _ =>
      refine iff_of_false (fun hnone => ?_) ?_
      · cases hnone
      · rintro ⟨_, _, _, hrecord, -⟩
        cases hrecord

end DeclaredShape

namespace Declaration

/-- A declaration is valid, where `isMark` tells the entries that a field may have. -/
structure Valid (isMark : AttributeItem → Prop) (declaration : Declaration) : Prop where
  options : ∀ item ∈ Attribute.ownItems declaration.attributes, item.IsOption
  name : ∀ name, declaration.lastName? = some name → Text.allBlank name = false
  shape : declaration.shape.Valid isMark

theorem optionViolations_eq_nil {declaration : Declaration} :
    declaration.optionViolations = [] ↔
      (∀ item ∈ Attribute.ownItems declaration.attributes, item.IsOption) ∧
        ∀ name, declaration.lastName? = some name → Text.allBlank name = false := by
  rw [optionViolations, List.append_eq_nil_iff, List.filterMap_eq_nil_iff, nameViolations]
  refine and_congr (forall₂_congr fun _ _ => AttributeItem.optionViolation?_eq_none) ?_
  cases declaration.lastName? <;> simp

/-- A declaration without violations is a valid one. -/
theorem violations_eq_nil {declaration : Declaration} : declaration.violations = [] ↔
    declaration.Valid fun item => item.key = "interruptible" ∧ item.literal = none := by
  rw [violations, List.append_eq_nil_iff, optionViolations_eq_nil,
    DeclaredShape.violations_eq_nil]
  constructor
  · rintro ⟨⟨hoptions, hname⟩, hshape⟩
    exact ⟨hoptions, hname, hshape⟩
  · rintro ⟨hoptions, hname, hshape⟩
    exact ⟨⟨hoptions, hname⟩, hshape⟩

/-! ## What is derived -/

/-- The implementations of a point with the last name given, if any, and with access to a field.
The implementation of an interruptible point is for the same type and adds no functions. -/
def Wires (declaration : Declaration) (field : Option FieldReference)
    (implementations : List Implementation) : Prop :=
  ∃ point : Implementation,
    point.interface = declaration.lastLibraryPath ++ TokenTree.path ["ExtensionPoint"] ∧
    (point.functions.lookup "point_name").isSome = declaration.lastName?.isSome ∧
    (∀ name, point.functions.lookup "point_name" =
        some [.group .curly [.literal .text (Text.inspectString name)]] ↔
      declaration.lastName? = some name) ∧
    point.functions.lookup "interruption" = field.map (fun field =>
      [.group .curly (TokenTree.path ["std", "option", "Option", "Some"] ++
        [.group .round [.lone '&', .word "self", .lone '.', field.tree]])]) ∧
    point.functions.lookup "interruption_mut" = field.map (fun field =>
      [.group .curly (TokenTree.path ["std", "option", "Option", "Some"] ++
        [.group .round [.lone '&', .word "mut", .word "self", .lone '.', field.tree]])]) ∧
    implementations = point :: field.toList.map fun _ =>
      { point with
        interface := declaration.lastLibraryPath ++ TokenTree.path ["Interruptible"]
        functions := [] }

/-- Bodies tell names apart. -/
theorem nameBody_injective : Function.Injective nameBody := by
  intro first second hsame
  simp only [nameBody, List.cons.injEq, TokenTree.group.injEq, TokenTree.literal.injEq, true_and,
    and_true] at hsame
  exact Text.inspectString_injective hsame

theorem lookup_point_name (name? : Option String) (field : Option FieldReference) :
    ((name?.map fun name => ("point_name", nameBody name)).toList ++
      (field.map stateFunctions).getD []).lookup "point_name" = name?.map nameBody := by
  cases name? <;> cases field <;> rfl

/-- What is made of a valid declaration is wired as it has to be. -/
theorem wires_implementations (declaration : Declaration) (field : Option FieldReference) :
    declaration.Wires field (declaration.implementations
      ⟨declaration.lastName?, declaration.lastLibraryPath⟩ field) := by
  have hlookup := lookup_point_name declaration.lastName? field
  refine ⟨declaration.implementation ⟨declaration.lastName?, declaration.lastLibraryPath⟩
    "ExtensionPoint"
      ((declaration.lastName?.map fun name => ("point_name", nameBody name)).toList ++
        (field.map stateFunctions).getD []), rfl, ?given, fun name => ?name, ?state, ?stateMut,
    ?whole⟩
  case given => exact (congrArg Option.isSome hlookup).trans Option.isSome_map
  case name =>
    rw [← (Option.map_injective nameBody_injective).eq_iff]
    exact Eq.congr hlookup rfl
  case state => cases declaration.lastName? <;> cases field <;> rfl
  case stateMut => cases declaration.lastName? <;> cases field <;> rfl
  case whole => cases field <;> rfl

/-- A declaration is given implementations exactly if it is valid.  They have the last name given
and access to the one marked field, if there is one; else the first violation is reported. -/
theorem derive_accepts_the_valid (declaration : Declaration) :
    ((∃ implementations, declaration.derive = .ok implementations) ↔
      declaration.Valid fun item => item.key = "interruptible" ∧ item.literal = none) ∧
    (∀ implementations, declaration.derive = .ok implementations →
      ∃ field, (∀ reference, field = some reference ↔ declaration.shape.IsStateField reference) ∧
        declaration.Wires field implementations) ∧
    ∀ violation, declaration.derive = .error violation ↔
      declaration.violations.head? = some violation := by
  have hderive := declaration.derive_eq
  refine ⟨?accepts, fun implementations hok => ?wires, fun violation => ?reports⟩
  case accepts =>
    rw [← violations_eq_nil]
    constructor
    · rintro ⟨implementations, hok⟩
      exact (unlessViolated_eq_ok.mp (hderive.symm.trans hok)).1
    · intro hnone
      exact ⟨_, hderive.trans (unlessViolated_eq_ok.mpr ⟨hnone, rfl⟩)⟩
  case wires =>
    obtain ⟨hnone, rfl⟩ := unlessViolated_eq_ok.mp (hderive.symm.trans hok)
    exact ⟨_, DeclaredShape.firstMarked?_eq_some (violations_eq_nil.mp hnone).shape,
      declaration.wires_implementations _⟩
  case reports => rw [hderive, unlessViolated_eq_error]

/-- A type that is named twice, with an attribute of somebody else in between, and that has its
state in the second of two fields by position. -/
def renamed : Declaration where
  typeName := "T"
  attributes := [⟨Attribute.ownPath, [⟨"name", some (.text "order.placed")⟩]⟩,
    ⟨"serde", [⟨"transparent", none⟩]⟩,
    ⟨Attribute.ownPath, [⟨"name", some (.text "order.cancelled")⟩]⟩]
  shape := .record [⟨none, []⟩, ⟨none, [⟨Attribute.ownPath, [⟨"interruptible", none⟩]⟩]⟩]
  generics := ""
  bounds := ""

/-- Of two names the last one is used, and the second of two fields is found by its position. -/
theorem derive_accepts_the_valid_of_renamed :
    renamed.lastName? = some "order.cancelled" ∧
      ∃ implementations, renamed.derive = .ok implementations ∧
        renamed.Wires (some (.positioned 1)) implementations := by
  have hvalid : renamed.Valid fun item => item.key = "interruptible" ∧ item.literal = none :=
    violations_eq_nil.mp (by decide)
  obtain ⟨haccepts, hwires, -⟩ := derive_accepts_the_valid renamed
  obtain ⟨implementations, hderived⟩ := haccepts.mpr hvalid
  obtain ⟨field, hfield, hwired⟩ := hwires implementations hderived
  obtain rfl : field = some (.positioned 1) :=
    (hfield _).mpr ⟨_, 1, _, rfl, rfl, by decide, rfl⟩
  exact ⟨by decide, implementations, hderived, hwired⟩

/-- A type with a field whose mark is set to a value. -/
def valuedMark : Declaration where
  typeName := "T"
  attributes := []
  shape := .record [⟨some "state", [⟨Attribute.ownPath, [⟨"interruptible", some .other⟩]⟩]⟩]
  generics := ""
  bounds := ""

/-- It is not enough that the entries of fields have the right key. -/
theorem derive_refuses_valuedMark :
    ¬ ((∃ implementations, valuedMark.derive = .ok implementations) ↔
      valuedMark.Valid fun item => item.key = "interruptible") := by
  have hrefused : valuedMark.derive = .error .markWithLiteral := by rfl
  have hvalid : valuedMark.Valid fun item => item.key = "interruptible" := by
    refine ⟨by simp [valuedMark, Attribute.ownItems], fun name hname => ?_, by decide, ?_⟩
    · cases hname
    · exact List.pairwise_singleton _ _
  intro haccepts
  obtain ⟨implementations, hderived⟩ := haccepts.mpr hvalid
  rw [hrefused] at hderived
  cases hderived

end Declaration
end Plugboard
