import Plugboard.Data.Document
/-!
# Reading typed data from documents

A reader takes a typed value out of a document or refuses it.  Records are written as
objects, or as arrays of their fields in order; members that a record does not know
are ignored.  A dialect says what a source of documents is lenient about.
-/

namespace Plugboard

/-- What a source of documents lets pass. -/
structure Dialect where
  /-- An array may hold more items than the record has fields. -/
  surplusItems : Bool
  deriving DecidableEq, Repr

/-- Nothing passes that is not written as it would be printed. -/
def Dialect.strict : Dialect := ⟨false⟩

/-- Takes a typed value out of a document. -/
abbrev Reader (α : Type) := Dialect → Document → Option α

/-- Where the text of a field is: given, left out of an object, or beyond the end of
an array. -/
inductive Slot where
  | given (document : Document)
  | absent
  | beyond

namespace Slot

variable {α : Type}

def required (read : Reader α) (dialect : Dialect) : Slot → Option α
  | .given document => read dialect document
  | .absent | .beyond => none

def orElse (read : Reader α) (fallback : α) (dialect : Dialect) : Slot → Option α
  | .given document => read dialect document
  | .absent | .beyond => some fallback

/-- The field may be left out of an object, but an array has to have its place. -/
def omittable (read : Reader (Option α)) (dialect : Dialect) : Slot → Option (Option α)
  | .given document => read dialect document
  | .absent => some none
  | .beyond => none

end Slot

namespace Reader

variable {α : Type}

def bool : Reader Bool := fun _ document =>
  match document with
  | .bool flag => some flag
  | _ => none

def string : Reader String := fun _ document =>
  match document with
  | .string text => text
  | _ => none

/-- An integer from 0 up to, but not including, `bound`. -/
def natural (bound : Nat) : Reader Nat := fun _ document =>
  match document with
  | .number (some (.integer value)) =>
    if 0 ≤ value ∧ value < bound then some value.toNat else none
  | _ => none

def word32 : Reader UInt32 := fun dialect document =>
  (natural (Nat.pow 2 32) dialect document).map UInt32.ofNat

def word64 : Reader UInt64 := fun dialect document =>
  (natural (Nat.pow 2 64) dialect document).map UInt64.ofNat

/-- Null is no value. -/
def option (read : Reader α) : Reader (Option α) := fun dialect document =>
  match document with
  | .null => some none
  | other => (read dialect other).map some

/-- One of several named variants: its name, or an object with its name and null. -/
def variant (variants : List (String × α)) : Reader α := fun _ document =>
  match document with
  | .string (some name) => variants.lookup name
  | .object [(some name, .null)] => variants.lookup name
  | _ => none

def membersNamed (name : String) (members : List (Option String × Document)) : List Document :=
  (members.filter (fun member => member.1 == some name)).map Prod.snd

/-- The slot of one field of an object; a repeated field is refused. -/
def memberSlot (members : List (Option String × Document)) (name : String) : Option Slot :=
  match membersNamed name members with
  | [] => some .absent
  | [document] => some (.given document)
  | _ :: _ :: _ => none

def slots (names : List String) : Reader (List Slot) := fun dialect document =>
  match document with
  | .object members =>
    if members.all (fun member => member.1.isSome) then names.mapM (memberSlot members) else none
  | .array items =>
    if items.length ≤ names.length ∨ dialect.surplusItems then
      some ((List.range names.length).map fun index =>
        match items[index]? with
        | some item => .given item
        | none => .beyond)
    else none
  | _ => none

/-- The entries of an object with arbitrary keys, the last of several with one key counting. -/
def entriesFrom (read : Reader α) (dialect : Dialect) :
    List (Option String × Document) → List (String × α) → Option (List (String × α))
  | [], entries => some entries
  | (none, _) :: _, _ => none
  | (some key, document) :: rest, entries =>
    match read dialect document with
    | some value => entriesFrom read dialect rest (Members.insert key value entries)
    | none => none

/-- The entries of an object with arbitrary keys, in key order. -/
def entries (read : Reader α) : Reader (List (String × α)) := fun dialect document =>
  match document with
  | .object members => entriesFrom read dialect members []
  | _ => none

/-- Reads a value that was not written by hand. -/
def fromValue (read : Reader α) (value : Value) : Option α :=
  read .strict (.ofValue value)

end Reader
end Plugboard
