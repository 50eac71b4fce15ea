import Plugboard.Data.Float64
/-!
# Dynamic values

Handler results, point data and settings documents are values of one recursive type.
Numbers keep integers apart from floating-point numbers.  An object lists its members
in increasing key order, each key once; `Members.insert` keeps that order.
-/

namespace Plugboard

/-- A number is an exact integer or a floating-point number. -/
inductive Number where
  | integer (value : Int)
  | float (value : Float64)
  deriving DecidableEq, Repr

namespace Number

/-- The integer, if it fits in 64 bits with a sign. -/
def asSigned? : Number → Option Int
  | .integer value => if -(Nat.pow 2 63) ≤ value ∧ value < Nat.pow 2 63 then some value else none
  | .float _ => none

/-- The integer, if it fits in 64 bits without a sign. -/
def asUnsigned? : Number → Option Nat
  | .integer value => if 0 ≤ value ∧ value < Nat.pow 2 64 then some value.toNat else none
  | .float _ => none

/-- The nearest floating-point number. -/
def toFloat : Number → Float64
  | .integer value => Float64.ofInt value
  | .float value => value

end Number

/-- A dynamic value. -/
inductive Value where
  | null
  | bool (flag : Bool)
  | number (number : Number)
  | string (text : String)
  | array (items : List Value)
  | object (members : List (String × Value))
  deriving Repr, Inhabited

namespace Value

mutual
def decEq : (left right : Value) → Decidable (left = right)
  | .null, .null => isTrue rfl
  | .bool a, .bool b => decidable_of_iff (a = b) (by simp)
  | .number a, .number b => decidable_of_iff (a = b) (by simp)
  | .string a, .string b => decidable_of_iff (a = b) (by simp)
  | .array a, .array b =>
    match decEqItems a b with
    | isTrue h => isTrue (by rw [h])
    | isFalse h => isFalse (by simpa using h)
  | .object a, .object b =>
    match decEqMembers a b with
    | isTrue h => isTrue (by rw [h])
    | isFalse h => isFalse (by simpa using h)
  | .null, .bool _ | .null, .number _ | .null, .string _ | .null, .array _ | .null, .object _
  | .bool _, .null | .bool _, .number _ | .bool _, .string _ | .bool _, .array _
  | .bool _, .object _
  | .number _, .null | .number _, .bool _ | .number _, .string _ | .number _, .array _
  | .number _, .object _
  | .string _, .null | .string _, .bool _ | .string _, .number _ | .string _, .array _
  | .string _, .object _
  | .array _, .null | .array _, .bool _ | .array _, .number _ | .array _, .string _
  | .array _, .object _
  | .object _, .null | .object _, .bool _ | .object _, .number _ | .object _, .string _
  | .object _, .array _ => isFalse (by simp)

def decEqItems : (left right : List Value) → Decidable (left = right)
  | [], [] => isTrue rfl
  | [], _ :: _ | _ :: _, [] => isFalse (by simp)
  | a :: as, b :: bs =>
    match decEq a b, decEqItems as bs with
    | isTrue h, isTrue hs => isTrue (by rw [h, hs])
    | isFalse h, _ => isFalse (by simp [h])
    | _, isFalse hs => isFalse (by simp [hs])

def decEqMembers : (left right : List (String × Value)) → Decidable (left = right)
  | [], [] => isTrue rfl
  | [], _ :: _ | _ :: _, [] => isFalse (by simp)
  | (k, a) :: as, (l, b) :: bs =>
    match decidable_of_iff (k = l) Iff.rfl, decEq a b, decEqMembers as bs with
    | isTrue hk, isTrue h, isTrue hs => isTrue (by rw [hk, h, hs])
    | isFalse hk, _, _ => isFalse (by simp [hk])
    | _, isFalse h, _ => isFalse (by simp [h])
    | _, _, isFalse hs => isFalse (by simp [hs])
end

instance : DecidableEq Value := decEq

def ofInt (value : Int) : Value := .number (.integer value)
def ofNat (value : Nat) : Value := .number (.integer value)

/-- A float, or null for a number that no text can write. -/
def ofFloat (value : Float64) : Value :=
  if value.isFinite then .number (.float value) else .null

def isNull : Value → Bool
  | .null => true
  | _ => false

def asNumber? : Value → Option Number
  | .number n => some n
  | _ => none

def asFloat? (value : Value) : Option Float64 := value.asNumber?.map Number.toFloat

def asSigned? (value : Value) : Option Int := value.asNumber?.bind Number.asSigned?
def asUnsigned? (value : Value) : Option Nat := value.asNumber?.bind Number.asUnsigned?

end Value

/-- The members of an object in increasing key order. -/
abbrev Members := List (String × Value)

namespace Members

variable {α : Type}

def get? (key : String) : List (String × α) → Option α
  | [] => none
  | (k, v) :: rest => if k = key then some v else get? key rest

/-- Sets a key, keeping the keys in increasing order. -/
def insert (key : String) (value : α) : List (String × α) → List (String × α)
  | [] => [(key, value)]
  | (k, v) :: rest =>
    if key < k then (key, value) :: (k, v) :: rest
    else if k = key then (key, value) :: rest
    else (k, v) :: insert key value rest

/-- Builds the members from pairs, a later pair winning over an earlier one. -/
def ofList (pairs : List (String × α)) : List (String × α) :=
  pairs.foldl (fun members (key, value) => insert key value members) []

@[simp]
theorem get?_insert_self (key : String) (value : α) (members : List (String × α)) :
    get? key (insert key value members) = some value := by
  induction members with
  | nil => simp [insert, get?]
  | cons member rest ih =>
    simp only [insert]
    split
    · simp [get?]
    · split
      · simp [get?]
      · rename_i hne
        simp [get?, hne, ih]

theorem get?_insert_of_ne {key other : String} (hne : other ≠ key) (value : α)
    (members : List (String × α)) :
    get? other (insert key value members) = get? other members := by
  induction members with
  | nil => simp [insert, get?, hne.symm]
  | cons member rest ih =>
    simp only [insert]
    split
    · simp [get?, hne.symm]
    · split
      · rename_i hkey
        simp [get?, hkey, hne.symm]
      · simp [get?, ih]

end Members

def Value.record (pairs : List (String × Value)) : Value := .object (Members.ofList pairs)

end Plugboard
