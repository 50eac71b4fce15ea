import Plugboard.Declaration.Literal
import Plugboard.Text.Blank
import Plugboard.Text.Inspected
/-!
# Text as tokens

A text falls into tokens if every piece of it between blanks and comments is a literal,
a mark, a name or a bracket, and its brackets are balanced.  Comments that document
something are attributes.
-/

namespace Plugboard.Declaration

/-- Blanks between tokens; the marks for the direction of writing count as such. -/
def isGap (c : Char) : Bool := Text.isBlank c || c.toNat == 0x200e || c.toNat == 0x200f

/-- Marks, the apostrophe of a lifetime among them. -/
def isMark (c : Char) : Bool := "~!@#$%^&*-=+|;:,<.>/?'".toList.contains c

/-- A mark stands here, and no comment. -/
def startsMark : List Char → Bool
  | '/' :: '/' :: _ | '/' :: '*' :: _ => false
  | c :: _ => isMark c
  | [] => false

/-! ## Comments -/

/-- The text of a comment to the end of its line, and the characters behind it. -/
def lineComment : List Char → List Char × List Char
  | [] => ([], [])
  | '\n' :: rest => ([], '\n' :: rest)
  | '\r' :: '\n' :: rest => ([], '\n' :: rest)
  | c :: rest =>
    let (comment, rest) := lineComment rest
    (c :: comment, rest)

/-- The text of a comment between marks of its own, which has been opened `depth` times,
with its last closing mark, and the characters behind it. -/
def blockComment : Nat → List Char → Option (List Char × List Char)
  | 0, rest => some ([], rest)
  | _ + 1, [] => none
  | depth + 1, '*' :: '/' :: rest =>
    (blockComment depth rest).map fun (comment, rest) => ('*' :: '/' :: comment, rest)
  | depth + 1, '/' :: '*' :: rest =>
    (blockComment (depth + 2) rest).map fun (comment, rest) => ('/' :: '*' :: comment, rest)
  | depth + 1, c :: rest =>
    (blockComment (depth + 1) rest).map fun (comment, rest) => (c :: comment, rest)

/-- The characters behind a comment that documents nothing. -/
def afterPlainComment? : List Char → Option (List Char)
  | '/' :: '/' :: '/' :: '/' :: rest => some (lineComment rest).2
  | '/' :: '/' :: '/' :: _ | '/' :: '/' :: '!' :: _ => none
  | '/' :: '/' :: rest => some (lineComment rest).2
  | '/' :: '*' :: '*' :: '/' :: rest => some rest
  | '/' :: '*' :: '*' :: '*' :: rest => (blockComment 1 ('*' :: '*' :: rest)).map Prod.snd
  | '/' :: '*' :: '*' :: _ | '/' :: '*' :: '!' :: _ => none
  | '/' :: '*' :: rest => (blockComment 1 rest).map Prod.snd
  | _ => none

/-- Only line feeds follow carriage returns. -/
def hasWholeLineEnds : List Char → Bool
  | [] => true
  | '\r' :: '\n' :: rest => hasWholeLineEnds rest
  | '\r' :: _ => false
  | _ :: rest => hasWholeLineEnds rest

/-- The attribute that a comment stands for; one inside something documents it from
there. -/
def documentation (isInside : Bool) (comment : List Char) : List TokenTree :=
  let literal := TokenTree.literal .text (Text.inspectString (String.ofList comment))
  .mark '#' false :: ((if isInside then [.mark '!' false] else []) ++
    [.group .square [.word "doc", .mark '=' false, literal]])

/-- The attribute that a comment at the start of a text stands for, and the characters
behind it. -/
def documentation? (input : List Char) : Option (List TokenTree × List Char) :=
  let finish := fun (isInside : Bool) (comment : List Char) (rest : List Char) =>
    if hasWholeLineEnds comment then some (documentation isInside comment, rest) else none
  let block := fun (isInside : Bool) (rest : List Char) =>
    match blockComment 1 rest with
    | some (comment, rest) => finish isInside (comment.take (comment.length - 2)) rest
    | none => none
  match input with
  | '/' :: '/' :: '!' :: rest => finish true (lineComment rest).1 (lineComment rest).2
  | '/' :: '*' :: '!' :: rest => block true rest
  | '/' :: '/' :: '/' :: '/' :: _ => none
  | '/' :: '/' :: '/' :: rest => finish false (lineComment rest).1 (lineComment rest).2
  | '/' :: '*' :: '*' :: '*' :: _ => none
  | '/' :: '*' :: '*' :: rest => block false rest
  | _ => none

/-! ## Names and marks -/

/-- Names that cannot be told from reserved words by a mark in front. -/
def unescapable : List String := ["_", "super", "self", "Self", "crate"]

/-- The name at the start of a text, perhaps told from a reserved word by a mark in
front, and the characters behind it. -/
def name? (input : List Char) : Option (String × List Char) :=
  let bare := fun (input : List Char) =>
    (afterName? input).map fun rest =>
      (String.ofList (input.take (input.length - rest.length)), rest)
  match input with
  | 'r' :: '#' :: rest =>
    (bare rest).bind fun (name, rest) =>
      if unescapable.contains name then none else some ("r#" ++ name, rest)
  | _ => bare input

/-- What the start of a literal looks like that could be taken for a name. -/
def literalStarts : List String :=
  ["r\"", "r#\"", "r##", "b\"", "b'", "br\"", "br#", "c\"", "cr\"", "cr#"]

/-- The lifetime behind an apostrophe, and the characters behind it. -/
def lifetime? (input : List Char) : Option (TokenTree × List Char) :=
  (name? input).bind fun (name, rest) =>
    match rest with
    | '\'' :: _ => none
    | '#' :: _ => if name.startsWith "r#" then some (.lifetime ("'" ++ name), rest) else none
    | _ => some (.lifetime ("'" ++ name), rest)

/-- The token at the start of a text that is no bracket, and the characters behind it. -/
def token? (input : List Char) : Option (TokenTree × List Char) :=
  literal? input <|>
    match input with
    | '\'' :: rest => lifetime? rest
    | c :: rest =>
      if startsMark input then some (.mark c (startsMark rest), rest)
      else if literalStarts.any fun start => start.toList.isPrefixOf input then none
      else (name? input).map fun (name, rest) => (.word name, rest)
    | [] => none

/-! ## Trees -/

/-- A bracket that has been opened, with the trees before it, the last first. -/
abbrev OpenBracket := Bracket × List TokenTree

/-- The trees of a text inside open brackets, after trees read so far, the last first. -/
def trees : Nat → List OpenBracket → List TokenTree → List Char → Option (List TokenTree)
  | 0, _, _, _ => none
  | fuel + 1, openings, seen, input =>
    match input with
    | [] => if openings.isEmpty then some seen.reverse else none
    | c :: rest =>
      if isGap c then trees fuel openings seen rest
      else
        match afterPlainComment? input with
        | some rest => trees fuel openings seen rest
        | none =>
          match documentation? input with
          | some (comment, rest) => trees fuel openings (comment.reverse ++ seen) rest
          | none =>
            match Bracket.all.find? (·.opening == c), Bracket.all.find? (·.closing == c) with
            | some bracket, _ => trees fuel ((bracket, seen) :: openings) [] rest
            | none, some bracket =>
              match openings with
              | (opened, before) :: openings =>
                if opened = bracket then
                  trees fuel openings (.group bracket seen.reverse :: before) rest
                else none
              | [] => none
            | none, none =>
              match token? input with
              | some (tree, rest) => trees fuel openings (tree :: seen) rest
              | none => none

/-- The token trees of a text; a mark for the order of bytes may stand in front. -/
def treesOfText? (text : String) : Option (List TokenTree) :=
  let input :=
    match text.toList with
    | '\ufeff' :: rest => rest
    | input => input
  trees (input.length + 1) [] [] input

end Plugboard.Declaration
