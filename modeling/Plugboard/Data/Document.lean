import Plugboard.Data.Value
/-!
# Documents

A document is the tree that a text spells before anything is required of it: members
keep their order and their repetitions, and a number too large for the format or a
string with half a surrogate pair is kept as such.  Readers of settings take what they
know from a document and ignore the rest; `Document.toValue?` insists on all of it.
-/

namespace Plugboard

/-- A parsed tree.  `none` stands for a number out of range or for a string that is
not Unicode text. -/
inductive Document where
  | null
  | bool (flag : Bool)
  | number (number : Option Number)
  | string (text : Option String)
  | array (items : List Document)
  | object (members : List (Option String × Document))
  deriving Repr, Inhabited

namespace Document

mutual
def ofValue : Value → Document
  | .null => .null
  | .bool flag => .bool flag
  | .number n => .number (some n)
  | .string text => .string (some text)
  | .array items => .array (ofItems items)
  | .object members => .object (ofMembers members)

def ofItems : List Value → List Document
  | [] => []
  | item :: rest => ofValue item :: ofItems rest

def ofMembers : List (String × Value) → List (Option String × Document)
  | [] => []
  | (key, item) :: rest => (some key, ofValue item) :: ofMembers rest
end

mutual
/-- The value of a document nested less than `depth` deep.  The last of several
members with one key counts. -/
def toValue? (depth : Nat) : Document → Option Value
  | .null => some .null
  | .bool flag => some (.bool flag)
  | .number n => n.map .number
  | .string text => text.map .string
  | .array items =>
    match depth with
    | 0 | 1 => none
    | below + 1 => (toItems? below items).map .array
  | .object members =>
    match depth with
    | 0 | 1 => none
    | below + 1 => (toMembers? below members []).map .object

def toItems? (depth : Nat) : List Document → Option (List Value)
  | [] => some []
  | item :: rest =>
    match toValue? depth item, toItems? depth rest with
    | some value, some values => some (value :: values)
    | _, _ => none

def toMembers? (depth : Nat) :
    List (Option String × Document) → Members → Option Members
  | [], members => some members
  | (none, _) :: _, _ => none
  | (some key, item) :: rest, members =>
    match toValue? depth item with
    | some value => toMembers? depth rest (Members.insert key value members)
    | none => none
end

/-- Nesting allowed in a text that is read as one value. -/
def nestingLimit : Nat := 128

end Document
end Plugboard
