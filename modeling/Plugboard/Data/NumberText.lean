import Plugboard.Data.Parser
/-!
# Numbers written by hand

Outside documents numbers may be written in more ways: with a plus sign, with leading
zeros, and without digits on one side of the point.
-/

namespace Plugboard.Numeral

/-- The sign of a word and what follows it. -/
def signed (word : List Char) : Bool × List Char :=
  match word with
  | '-' :: rest => (true, rest)
  | '+' :: rest => (false, rest)
  | _ => (false, word)

/-- Digits and nothing else, at least one. -/
def digits? (word : List Char) : Option (List Nat) :=
  match Document.Reader.digitsOf word with
  | (digit :: digits, []) => some (digit :: digits)
  | _ => none

/-- The exponent at the end of a number, if one is written there and nothing else. -/
def exponent? (word : List Char) : Option (Option (Bool × List Nat)) :=
  match word with
  | [] => some none
  | 'e' :: rest | 'E' :: rest =>
    let (isNegative, rest) := signed rest
    (digits? rest).map fun digits => some (isNegative, digits)
  | _ => none

/-- A number that fills a word.  There are digits on one side of the point or on both. -/
def ofWord? (word : List Char) : Option Numeral :=
  let (negative, rest) := signed word
  let (whole, rest) := Document.Reader.digitsOf rest
  let (isFractional, fraction, rest) :=
    match rest with
    | '.' :: rest => (true, Document.Reader.digitsOf rest)
    | _ => (false, [], rest)
  if whole.isEmpty && fraction.isEmpty then none
  else (exponent? rest).map fun exponent => ⟨negative, whole, fraction, isFractional, exponent⟩

end Plugboard.Numeral
