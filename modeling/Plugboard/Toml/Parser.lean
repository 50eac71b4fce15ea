import Plugboard.Toml.Section
import Plugboard.Toml.Scalar
import Plugboard.Toml.Quoted
/-!
# Reading TOML

A text is a sequence of lines, each blank, a header, or a key with a value; a value may
run over several lines.  Steps take the characters still to be read and return what is
left.  The recursion is bounded by fuel computed from the length of the text, and the
nesting of brackets by a limit of its own.
-/

namespace Plugboard.Toml

/-- Brackets may be nested this deep, and keys have no more parts. -/
def nestingLimit : Nat := 79

def skipSpace (input : List Char) : List Char := input.dropWhile isSpace

/-- What follows the rest of a line: spaces, perhaps a comment, and a line break or the
end of the text. -/
def nextLine (input : List Char) : Option (List Char) :=
  let rest := skipSpace input
  let rest :=
    match rest with
    | '#' :: comment => comment.dropWhile isPlain
    | _ => rest
  match rest with
  | [] => some []
  | '\n' :: rest | '\r' :: '\n' :: rest => some rest
  | _ => none

/-- Leaves out spaces, line breaks and comments between the items of an array. -/
def skipLines (inComment : Bool) : List Char → List Char
  | '\n' :: rest | '\r' :: '\n' :: rest => skipLines false rest
  | '#' :: rest => skipLines true rest
  | c :: rest =>
    if (inComment && isPlain c) || isSpace c then skipLines inComment rest else c :: rest
  | [] => []

def isBareKeyChar (c : Char) : Bool := c.isAlphanum || c == '_' || c == '-'

/-- One part of a key. -/
def keyPart (input : List Char) : Option (String × List Char) :=
  match input with
  | '"' :: rest => basic [] rest
  | '\'' :: rest => verbatim [] rest
  | _ =>
    let word := input.takeWhile isBareKeyChar
    if word.isEmpty then none else some (String.ofList word, input.drop word.length)

/-- A key of parts with dots in between, spaces allowed around each. -/
def key : Nat → List Char → Option (List String × List Char)
  | 0, _ => none
  | limit + 1, input =>
    match keyPart (skipSpace input) with
    | none => none
    | some (part, rest) =>
      match skipSpace rest with
      | '.' :: rest => (key limit rest).map fun (parts, rest) => (part :: parts, rest)
      | rest => some ([part], rest)

/-- A key, the sign of equality, and what follows it. -/
def keyEquals (input : List Char) : Option (List String × List Char) :=
  match key nestingLimit input with
  | some (parts, '=' :: rest) => some (parts, skipSpace rest)
  | _ => none

def isWordChar (c : Char) : Bool :=
  c.isAlphanum || c == '_' || c == '-' || c == '+' || c == '.' || c == ':'

/-- The characters of a bare word.  A time may follow a date after one space. -/
def bareWord (input : List Char) : List Char × List Char :=
  let word := input.takeWhile isWordChar
  let rest := input.drop word.length
  match afterDate word, rest with
  | some [], ' ' :: c :: more =>
    if c.isDigit then
      let time := (c :: more).takeWhile isWordChar
      (word ++ ' ' :: time, (c :: more).drop time.length)
    else (word, rest)
  | _, _ => (word, rest)

/-- Text between quotes, from its opening quotes on. -/
def quoted? (input : List Char) : Option (Option (String × List Char)) :=
  match input with
  | '"' :: '"' :: '"' :: rest => some (basicLines false [] (skipFirstBreak rest))
  | '"' :: rest => some (basic [] rest)
  | '\'' :: '\'' :: '\'' :: rest => some (verbatimLines [] (skipFirstBreak rest))
  | '\'' :: rest => some (verbatim [] rest)
  | _ => none

mutual
/-- One value, brackets nested no deeper than `depth`. -/
def value : (fuel depth : Nat) → List Char → Option (Value × List Char)
  | 0, _, _ => none
  | fuel + 1, depth, input =>
    match quoted? input with
    | some outcome => outcome.map fun (text, rest) => (.string text, rest)
    | none =>
      match input, depth with
      | '[' :: rest, depth + 1 => items fuel depth [] rest
      | '\x7b' :: rest, depth + 1 =>
        match skipSpace rest with
        | '\x7d' :: rest => some (.object [], rest)
        | rest => members fuel depth [] rest
      | _, _ =>
        let (word, rest) := bareWord input
        (bareWord? word).map fun value => (value, rest)

/-- The items of an array up to its closing bracket. -/
def items : (fuel depth : Nat) → List Value → List Char → Option (Value × List Char)
  | 0, _, _, _ => none
  | fuel + 1, depth, seen, input =>
    match skipLines false input with
    | ']' :: rest => some (.array seen.reverse, rest)
    | input =>
      match value fuel depth input with
      | none => none
      | some (item, rest) =>
        match skipLines false rest with
        | ',' :: rest => items fuel depth (item :: seen) rest
        | ']' :: rest => some (.array (item :: seen).reverse, rest)
        | _ => none

/-- The members of a table in braces up to its closing brace. -/
def members : (fuel depth : Nat) → Sections → List Char → Option (Value × List Char)
  | 0, _, _, _ => none
  | fuel + 1, depth, seen, input =>
    match keyEquals input with
    | none => none
    | some (parts, rest) =>
      match value fuel depth rest with
      | none => none
      | some (content, rest) =>
        match Sections.setDotted (parts.getLastD "") content parts.dropLast seen with
        | none => none
        | some seen =>
          match skipSpace rest with
          | ',' :: rest => members fuel depth seen rest
          | '\x7d' :: rest => some (.object (Section.toMembers seen), rest)
          | _ => none
end

/-- A header up to its closing brackets. -/
def header (isList : Bool) (input : List Char) : Option (List String × List Char) :=
  match key nestingLimit input, isList with
  | some (parts, ']' :: ']' :: rest), true => (nextLine rest).map fun rest => (parts, rest)
  | some (parts, ']' :: rest), false => (nextLine rest).map fun rest => (parts, rest)
  | _, _ => none

/-- The lines of a text.  `current` is the way to the table of the last header. -/
def lines : Nat → List String → Sections → List Char → Option Sections
  | 0, _, _, _ => none
  | fuel + 1, current, root, input =>
    match skipSpace input with
    | [] => some root
    | '[' :: '[' :: rest =>
      match header true rest with
      | none => none
      | some (parts, rest) =>
        match root.change (Sections.openItem (parts.getLastD "")) parts.dropLast with
        | none => none
        | some root => lines fuel parts root rest
    | '[' :: rest =>
      match header false rest with
      | none => none
      | some (parts, rest) =>
        match root.change (Sections.openTable (parts.getLastD "")) parts.dropLast with
        | none => none
        | some root => lines fuel parts root rest
    | rest =>
      if rest.head? = some '#' ∨ (nextLine rest).isSome then
        match nextLine rest with
        | none => none
        | some rest => lines fuel current root rest
      else
        match keyEquals rest with
        | none => none
        | some (parts, rest) =>
          match value (2 * rest.length + 2) nestingLimit rest with
          | none => none
          | some (content, rest) =>
            match nextLine rest,
              root.change (Sections.setDotted (parts.getLastD "") content parts.dropLast)
                current with
            | some rest, some root => lines fuel current root rest
            | _, _ => none

/-- The members that a text spells.  A byte order mark may stand in front. -/
def parse? (text : String) : Option Members :=
  let input :=
    match text.toList with
    | '\ufeff' :: rest => rest
    | rest => rest
  (lines (input.length + 2) [] [] input).map Section.toMembers

end Plugboard.Toml
