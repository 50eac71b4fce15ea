import Plugboard.Data.NumberText
import Plugboard.Text.Blank
import Plugboard.Text.Bytes
import Plugboard.Toml.Quoted
/-!
# Values spelled by variables

The text of a variable spells a truth value, a number, a quoted text, a list or a
table.  Inside lists and tables, and around every value, spaces and line breaks do not
count.  Text that spells nothing of this stands for itself, to the last space.
-/

namespace Plugboard.VariableText

/-- What may stand around values. -/
def isSpace (c : Char) : Bool :=
  c == ' ' || c == '\t' || c == '\n' || c == '\r' || c == '\x0c'

def skipSpace (input : List Char) : List Char := input.dropWhile isSpace

/-- Marks that end a bare word. -/
def isSeparator (c : Char) : Bool :=
  c == ',' || c == '{' || c == '}' || c == '[' || c == ']'

/-- Characters of a key without quotes. -/
def isKeyChar (c : Char) : Bool := c.isAlphanum || c == '_' || c == '-'

/-! ## Words -/

/-- An integer that fits in 64 bits, with a sign or without. -/
def integer? (word : List Char) : Option Int :=
  let (isNegative, rest) := Numeral.signed word
  match Numeral.digits? rest with
  | some digits =>
    let magnitude := Numeral.decimal digits
    if isNegative then if magnitude ≤ Nat.pow 2 63 then some (-magnitude) else none
    else if magnitude < Nat.pow 2 64 then some magnitude else none
  | none => none

def float? (word : List Char) : Option Float64 :=
  ((Numeral.ofWord? word).filter (·.isFractional)).map (·.nearest)

/-- A word by itself is a number or text. -/
def bareWord (word : List Char) : Value :=
  match float? word, integer? word with
  | some value, _ => .number (.float value)
  | none, some value => .ofInt value
  | none, none => .string (String.ofList word)

/-! ## Quoted text -/

/-- Text up to the closing quote.  Of what stands before the first escape, as many bytes
are kept as it has characters. -/
def quotedText (input : List Char) : Option (String × List Char) :=
  let plain := input.takeWhile fun c => c != '"' && c != '\\'
  let rest := input.drop plain.length
  if !plain.all Toml.isPlain then none
  else
    match rest with
    | '"' :: after => some (String.ofList plain, after)
    | _ => Toml.basic (Text.withinBytes plain.length plain).reverse rest

/-- A key of a table, spaces around it allowed, up to the sign of equality. -/
def entryKey (input : List Char) : Option (String × List Char) :=
  let finish := fun (name : String) (rest : List Char) =>
    match skipSpace rest with
    | '=' :: rest => some (name, rest)
    | _ => none
  match skipSpace input with
  | '"' :: rest =>
    match quotedText rest with
    | some (name, rest) => finish name rest
    | none => none
  | rest =>
    let name := rest.takeWhile isKeyChar
    if name.isEmpty then none else finish (String.ofList name) (rest.drop name.length)

/-! ## Values -/

mutual
/-- One value with the spaces around it.  A word that starts like a truth value is one,
so nothing may follow it there. -/
def value : Nat → List Char → Option (Value × List Char)
  | 0, _ => none
  | fuel + 1, input =>
    let outcome : Option (Value × List Char) :=
      match skipSpace input with
      | 't' :: 'r' :: 'u' :: 'e' :: rest => some (.bool true, rest)
      | 'f' :: 'a' :: 'l' :: 's' :: 'e' :: rest => some (.bool false, rest)
      | '[' :: rest => items fuel [] rest
      | '\x7b' :: rest => entries fuel [] rest
      | '"' :: rest => (quotedText rest).map fun (text, rest) => (.string text, rest)
      | '\'' :: c :: '\'' :: rest => some (.string (String.singleton c), rest)
      | '\'' :: _ => none
      | rest =>
        let word := rest.takeWhile (fun c => !isSeparator c)
        some (bareWord (Text.trimmed (String.ofList word)).toList, rest.drop word.length)
    outcome.map fun (content, rest) => (content, skipSpace rest)

/-- The items of a list up to its closing bracket; a comma may stand behind the last. -/
def items : Nat → List Value → List Char → Option (Value × List Char)
  | 0, _, _ => none
  | fuel + 1, seen, input =>
    match input with
    | ']' :: rest => some (.array seen.reverse, rest)
    | _ =>
      match value fuel input with
      | some (item, ',' :: rest) => items fuel (item :: seen) rest
      | some (item, ']' :: rest) => some (.array (item :: seen).reverse, rest)
      | _ => none

/-- The entries of a table up to its closing brace; a later entry wins. -/
def entries : Nat → Members → List Char → Option (Value × List Char)
  | 0, _, _ => none
  | fuel + 1, seen, input =>
    match input with
    | '\x7d' :: rest => some (.object seen, rest)
    | _ =>
      match entryKey input with
      | none => none
      | some (key, rest) =>
        match value fuel rest with
        | some (content, ',' :: rest) => entries fuel (Members.insert key content seen) rest
        | some (content, '\x7d' :: rest) =>
          some (.object (Members.insert key content seen), rest)
        | _ => none
end

/-- What the text of a variable stands for. -/
def read (text : String) : Value :=
  let input := text.toList
  match value (2 * input.length + 2) input with
  | some (content, []) => content
  | _ => .string text

end Plugboard.VariableText
