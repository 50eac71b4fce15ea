import Plugboard.Declaration.Path
import Plugboard.Declaration.Generics
import Plugboard.Text.Inspected
/-!
# Deriving the implementations of a point

A declaration is accepted if every entry of its own attributes is understood, the last
name given is not blank, and at most one field of a record is marked as the one that
holds the state of an interruption.  Faults are looked for in source order: first in
the attributes of the type, then its name, then its fields; the first one is reported.
-/

namespace Plugboard

/-- What the attributes on the type ask for. -/
structure DeclarationOptions where
  name : Option String
  libraryPath : List TokenTree
  deriving Repr

/-- Where the library is found unless an attribute says otherwise. -/
def DeclarationOptions.standard : DeclarationOptions := ⟨none, TokenTree.path ["junction_core"]⟩

/-- A field, by its name or by its position among all fields. -/
inductive FieldReference where
  | named (name : String)
  | positioned (index : Nat)
  deriving DecidableEq, Repr

/-- The token behind the point of an access. -/
def FieldReference.tree : FieldReference → TokenTree
  | .named name => .word name
  | .positioned index => .literal .integer (toString index)

/-- One derived implementation.  Functions are given by name and body. -/
structure Implementation where
  interface : List TokenTree
  implementer : List TokenTree
  generics : List TokenTree
  bounds : Option (List TokenTree)
  functions : List (String × List TokenTree)
  deriving Repr

/-- The string literal that an entry is set to. -/
def AttributeItem.text (item : AttributeItem) : Except DeclarationError String :=
  match item.literal with
  | none => .error .equalsExpected
  | some .other => .error .textExpected
  | some (.text value) => .ok value

/-- Takes one more entry into account; a later entry wins. -/
def DeclarationOptions.add (options : DeclarationOptions) (item : AttributeItem) :
    Except DeclarationError DeclarationOptions :=
  match item.key with
  | "name" => item.text.map fun name => { options with name := some name }
  | "crate" =>
    match item.text with
    | .error fault => .error fault
    | .ok text =>
      match Declaration.readPath text with
      | .error fault => .error (.badPath fault)
      | .ok path => .ok { options with libraryPath := path }
  | _ => .error .unknownOption

def DeclarationOptions.addAll (options : DeclarationOptions) :
    List AttributeItem → Except DeclarationError DeclarationOptions
  | [] => .ok options
  | item :: rest =>
    match options.add item with
    | .error fault => .error fault
    | .ok options => options.addAll rest

/-- What the attributes on the type ask for, unless they ask for a blank name. -/
def Declaration.options (attributes : List Attribute) :
    Except DeclarationError DeclarationOptions :=
  match DeclarationOptions.standard.addAll (Attribute.ownItems attributes) with
  | .error fault => .error fault
  | .ok options =>
    match options.name with
    | some name => if Text.allBlank name then .error .blankName else .ok options
    | none => .ok options

namespace DeclaredField

/-- The first fault among the entries of a field. -/
def markFault? : List AttributeItem → Option DeclarationError
  | [] => none
  | item :: rest =>
    if item.key ≠ "interruptible" then some .unknownMark
    else if item.literal.isSome then some .markWithLiteral
    else markFault? rest

/-- Whether a field is marked as the one that holds the state of an interruption. -/
def isMarked (field : DeclaredField) : Except DeclarationError Bool :=
  let items := Attribute.ownItems field.attributes
  match markFault? items with
  | some fault => .error fault
  | none => .ok !items.isEmpty

/-- How a field at a position is referred to. -/
def reference (field : DeclaredField) (index : Nat) : FieldReference :=
  match field.name with
  | some name => .named name
  | none => .positioned index

/-- The marked field among fields from a position on, one perhaps found before. -/
def markedFrom (index : Nat) (found : Option FieldReference) :
    List DeclaredField → Except DeclarationError (Option FieldReference)
  | [] => .ok found
  | field :: rest =>
    match field.isMarked with
    | .error fault => .error fault
    | .ok false => markedFrom (index + 1) found rest
    | .ok true =>
      match found with
      | some _ => .error .secondMark
      | none => markedFrom (index + 1) (some (field.reference index)) rest

/-- Refuses marked fields. -/
def noneMarked : List DeclaredField → Except DeclarationError Unit
  | [] => .ok ()
  | field :: rest =>
    match field.isMarked with
    | .error fault => .error fault
    | .ok true => .error .markOutsideRecord
    | .ok false => noneMarked rest

end DeclaredField

/-- The field that holds the state of an interruption. -/
def DeclaredShape.stateField : DeclaredShape → Except DeclarationError (Option FieldReference)
  | .record fields => DeclaredField.markedFrom 0 none fields
  | .variants alternatives => (DeclaredField.noneMarked alternatives.flatten).map fun _ => none
  | .union _ => .error .union

namespace Declaration

/-- A body that is a literal. -/
def nameBody (name : String) : List TokenTree :=
  [.group .curly [.literal .text (Text.inspectString name)]]

/-- A body that borrows a field, in a way that words behind the sign of a borrow say. -/
def stateBody (manner : List TokenTree) (field : FieldReference) : List TokenTree :=
  let access := manner ++ [.word "self", .lone '.', field.tree]
  [.group .curly (TokenTree.path ["std", "option", "Option", "Some"] ++
    [.group .round (.lone '&' :: access)])]

def stateFunctions (field : FieldReference) : List (String × List TokenTree) :=
  [("interruption", stateBody [] field), ("interruption_mut", stateBody [.word "mut"] field)]

def implementation (declaration : Declaration) (options : DeclarationOptions)
    (interface : String) (functions : List (String × List TokenTree)) : Implementation :=
  let parameters := parameters declaration.generics
  { interface := options.libraryPath ++ TokenTree.path [interface]
    implementer := .word declaration.typeName :: angled Parameter.name parameters
    generics := angled Parameter.declared parameters
    bounds := readBounds declaration.bounds
    functions }

/-- The implementations of a point, those for interruptible points only with a field
that holds the state. -/
def implementations (declaration : Declaration) (options : DeclarationOptions)
    (field : Option FieldReference) : List Implementation :=
  let functions :=
    (options.name.map fun name => ("point_name", nameBody name)).toList ++
      (field.map stateFunctions).getD []
  declaration.implementation options "ExtensionPoint" functions ::
    (if field.isSome then [declaration.implementation options "Interruptible" []] else [])

def derive (declaration : Declaration) : Except DeclarationError (List Implementation) :=
  match Declaration.options declaration.attributes with
  | .error fault => .error fault
  | .ok options =>
    match declaration.shape.stateField with
    | .error fault => .error fault
    | .ok field => .ok (declaration.implementations options field)

end Declaration
end Plugboard
