import Plugboard.Text.Unprinted
import Plugboard.Data.Printer
/-!
# Inspected text

The form in which values show their structure to a programmer: records with named
fields, variants with their contents, strings between quotes with every character that
has no printed form spelled by its number.
-/

namespace Plugboard.Text

/-- Hexadecimal digits without leading zeros. -/
def hexadecimal (n : Nat) : List Char := Nat.toDigits 16 n

/-- A character inside inspected quotes. -/
def inspectChar (c : Char) : List Char :=
  match c with
  | '\x00' => ['\\', '0']
  | '\t' => ['\\', 't']
  | '\r' => ['\\', 'r']
  | '\n' => ['\\', 'n']
  | '\\' => ['\\', '\\']
  | '"' => ['\\', '"']
  | c => if isUnprinted c then '\\' :: 'u' :: '\x7b' :: hexadecimal c.toNat ++ ['\x7d'] else [c]

def inspectString (text : String) : String :=
  String.ofList ('"' :: text.toList.flatMap inspectChar ++ ['"'])

/-- `Name { field: text, … }`. -/
def inspectRecord (name : String) (fields : List (String × String)) : String :=
  name ++ " \x7b " ++
    String.intercalate ", " (fields.map (fun (field, text) => field ++ ": " ++ text)) ++ " \x7d"

/-- `Name(text, …)`. -/
def inspectVariant (name : String) (contents : List String) : String :=
  name ++ "(" ++ String.intercalate ", " contents ++ ")"

/-- `[text, …]`. -/
def inspectList (items : List String) : String :=
  "[" ++ String.intercalate ", " items ++ "]"

/-- `{text, …}`. -/
def inspectSet (items : List String) : String :=
  "\x7b" ++ String.intercalate ", " items ++ "\x7d"

def inspectOption : Option String → String
  | none => "None"
  | some text => inspectVariant "Some" [text]

def inspectBool (flag : Bool) : String := if flag then "true" else "false"

end Plugboard.Text

namespace Plugboard.Value

open Text

mutual
def inspect : Value → String
  | .null => "Null"
  | .bool flag => inspectVariant "Bool" [inspectBool flag]
  | .number n => inspectVariant "Number" [n.text]
  | .string s => inspectVariant "String" [inspectString s]
  | .array items => "Array " ++ inspectList (inspectItems items)
  | .object members => "Object " ++ inspectSet (inspectMembers members)

def inspectItems : List Value → List String
  | [] => []
  | item :: rest => item.inspect :: inspectItems rest

def inspectMembers : List (String × Value) → List String
  | [] => []
  | (key, item) :: rest => (inspectString key ++ ": " ++ item.inspect) :: inspectMembers rest
end

end Plugboard.Value
