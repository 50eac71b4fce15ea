import Plugboard.Data.Value
/-!
# Tables under construction

A table of a TOML text is built up from headers and from keys with dots, which may come
in any order but must not define the same thing twice.  How a table came to be decides
what may still be added to it.
-/

namespace Plugboard.Toml

/-- How a table came to be. -/
inductive Standing where
  /-- It has a header of its own. -/
  | written
  /-- A header further down made it on its way. -/
  | implied
  /-- A key with dots made it on its way. -/
  | dotted
  deriving DecidableEq, Repr

/-- What stands under a key. -/
inductive Section where
  | leaf (content : Value)
  | table (standing : Standing) (members : List (String × Section))
  /-- A table for each header in double brackets. -/
  | tables (items : List (List (String × Section)))
  deriving Repr, Inhabited

/-- The sections under the keys of one table. -/
abbrev Sections := List (String × Section)

namespace Section

mutual
def toValue : Section → Value
  | .leaf content => content
  | .table _ members => .object (toMembers members)
  | .tables items => .array (toItems items)

def toMembers : List (String × Section) → List (String × Value)
  | [] => []
  | (key, part) :: rest => (key, toValue part) :: toMembers rest

def toItems : List (List (String × Section)) → List Value
  | [] => []
  | item :: rest => .object (toMembers item) :: toItems rest
end

end Section

namespace Sections

/-- Applies a change to the table that a header leads to.  Tables on the way are made
where they are missing, and a list of tables is entered at its last one. -/
def change (act : Sections → Option Sections) : List String → Sections → Option Sections
  | [], table => act table
  | step :: rest, table =>
    match Members.get? step table with
    | none =>
      (change act rest []).map fun inner => Members.insert step (.table .implied inner) table
    | some (.table standing inner) =>
      (change act rest inner).map fun inner => Members.insert step (.table standing inner) table
    | some (.tables items) =>
      match items.getLast? with
      | none => none
      | some last =>
        (change act rest last).map fun last =>
          Members.insert step (.tables (items.dropLast ++ [last])) table
    | some (.leaf _) => none

/-- Gives a table a header of its own, unless it has one or a key with dots made it. -/
def openTable (name : String) (table : Sections) : Option Sections :=
  match Members.get? name table with
  | none => some (Members.insert name (.table .written []) table)
  | some (.table .implied inner) => some (Members.insert name (.table .written inner) table)
  | some _ => none

/-- Starts one more table of a list of tables. -/
def openItem (name : String) (table : Sections) : Option Sections :=
  match Members.get? name table with
  | none => some (Members.insert name (.tables [[]]) table)
  | some (.tables items) => some (Members.insert name (.tables (items ++ [[]])) table)
  | some _ => none

/-- Sets a key that is not set yet. -/
def set (key : String) (value : Value) (table : Sections) : Option Sections :=
  match Members.get? key table with
  | none => some (Members.insert key (.leaf value) table)
  | some _ => none

/-- Sets a key behind others with dots in between.  The way leads only through tables
without a header of their own, and ends in one that a key with dots made. -/
def setDotted (key : String) (value : Value) : List String → Sections → Option Sections
  | [], table => set key value table
  | step :: rest, table =>
    match Members.get? step table with
    | none =>
      (setDotted key value rest []).map fun inner =>
        Members.insert step (.table .dotted inner) table
    | some (.table standing inner) =>
      if standing = .written ∨ (rest = [] ∧ standing ≠ .dotted) then none
      else
        (setDotted key value rest inner).map fun inner =>
          Members.insert step (.table standing inner) table
    | some (.tables items) =>
      match items.getLast? with
      | none => none
      | some last =>
        if rest = [] then none
        else
          (setDotted key value rest last).map fun last =>
            Members.insert step (.tables (items.dropLast ++ [last])) table
    | some (.leaf _) => none

end Sections
end Plugboard.Toml
