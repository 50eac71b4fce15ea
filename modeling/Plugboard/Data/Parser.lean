import Plugboard.Data.Document
/-!
# Reading documents from text

Strict JSON: no trailing data except blanks, no leading zeros, no raw control
characters in strings.  Each step takes the characters still to be read and returns
what is left; the recursion is bounded by fuel computed from the length of the text,
since every step consumes at least one character.
-/

namespace Plugboard

/-! ## Numbers -/

/-- The pieces of a number as written. -/
structure Numeral where
  negative : Bool
  whole : List Nat
  fraction : List Nat
  isFractional : Bool
  exponent : Option (Bool × List Nat)

namespace Numeral

/-- Takes digits into a significand as long as it fits in 64 bits.  Returns it with
the digits that are left over. -/
def absorb (significand : Nat) : List Nat → Nat × List Nat
  | [] => (significand, [])
  | digit :: rest =>
    if significand * 10 + digit < Nat.pow 2 64 then absorb (significand * 10 + digit) rest
    else (significand, digit :: rest)

/-- `significand · 10^exponent` in floating point, by one multiplication or by
divisions; `none` beyond the largest number. -/
def scale : Nat → Float64 → Int → Option Float64
  | 0, significand, _ => some significand
  | fuel + 1, significand, exponent =>
    if exponent.natAbs ≤ 308 then
      if 0 ≤ exponent then
        let product := significand.mul (Float64.powerOfTen exponent.toNat)
        if product.isFinite then some product else none
      else some (significand.div (Float64.powerOfTen exponent.natAbs))
    else if significand.isZero then some significand
    else if 0 ≤ exponent then none
    else scale fuel (significand.div (Float64.powerOfTen 308)) (exponent + 308)

/-- The digits of an exponent, or `none` when they pass 31 bits. -/
def exponentDigits (total : Nat) : List Nat → Option Nat
  | [] => some total
  | digit :: rest =>
    if total * 10 + digit < Nat.pow 2 31 then exponentDigits (total * 10 + digit) rest else none

/-- The floating-point number of a significand, its decimal exponent and the written exponent. -/
def floating (numeral : Numeral) (significand : Nat) (exponent : Int) : Option Float64 :=
  let signed := fun (magnitude : Float64) =>
    if numeral.negative then magnitude.neg else magnitude
  match numeral.exponent with
  | none => (scale 4 (Float64.ofInt significand) exponent).map signed
  | some (negativeExponent, digits) =>
    match exponentDigits 0 digits with
    | some written =>
      let shift : Int := if negativeExponent then -written else written
      (scale 4 (Float64.ofInt significand) (exponent + shift)).map signed
    | none =>
      if significand ≠ 0 && !negativeExponent then none else some (signed Float64.zero)

/-- The number a numeral denotes: an integer if it is written without point and
exponent and fits, else a float.  A minus sign before zero makes a float. -/
def toNumber? (numeral : Numeral) : Option Number :=
  let (whole, surplus) := absorb 0 numeral.whole
  if !numeral.isFractional && numeral.exponent.isNone && surplus.isEmpty then
    if !numeral.negative then some (.integer whole)
    else if whole ≠ 0 && whole ≤ Nat.pow 2 63 then some (.integer (-whole))
    else some (.float (Float64.ofInt whole).neg)
  else
    let (significand, lost) := absorb whole numeral.fraction
    let places := numeral.fraction.length - lost.length
    (numeral.floating significand (surplus.length - places)).map .float

def decimal (digits : List Nat) : Nat :=
  digits.foldl (fun total digit => total * 10 + digit) 0

/-- The floating-point number nearest to what the numeral spells, infinite beyond the
largest one. -/
def nearest (numeral : Numeral) : Float64 :=
  let written : Int :=
    match numeral.exponent with
    | none => 0
    | some (negativeExponent, digits) =>
      let magnitude := decimal digits
      if negativeExponent then -magnitude else magnitude
  Float64.ofDecimal numeral.negative (decimal (numeral.whole ++ numeral.fraction))
    (written - numeral.fraction.length)

end Numeral

/-! ## Text -/

namespace Document.Reader

def isBlank (c : Char) : Bool := c == ' ' || c == '\t' || c == '\n' || c == '\r'

def skipBlank (input : List Char) : List Char := input.dropWhile isBlank

def digitsOf (input : List Char) : List Nat × List Char :=
  ((input.takeWhile Char.isDigit).map (fun c => c.toNat - 48), input.dropWhile Char.isDigit)

/-- A number, from its sign or first digit on. -/
def number (input : List Char) : Option (Document × List Char) :=
  let (negative, input) :=
    match input with
    | '-' :: rest => (true, rest)
    | _ => (false, input)
  let (whole, input) := digitsOf input
  if whole.isEmpty || (whole.length > 1 && whole.head? == some 0) then none
  else
    let finish := fun (isFractional : Bool) (fraction : List Nat) (input : List Char) =>
      let done := fun (exponent : Option (Bool × List Nat)) (rest : List Char) =>
        some (Document.number
          (Numeral.toNumber? ⟨negative, whole, fraction, isFractional, exponent⟩), rest)
      let exponentFrom := fun (negativeExponent : Bool) (input : List Char) =>
        let (digits, rest) := digitsOf input
        if digits.isEmpty then none else done (some (negativeExponent, digits)) rest
      match input with
      | 'e' :: '-' :: rest | 'E' :: '-' :: rest => exponentFrom true rest
      | 'e' :: '+' :: rest | 'E' :: '+' :: rest => exponentFrom false rest
      | 'e' :: rest | 'E' :: rest => exponentFrom false rest
      | _ => done none input
    match input with
    | '.' :: rest =>
      let (fraction, rest) := digitsOf rest
      if fraction.isEmpty then none else finish true fraction rest
    | _ => finish false [] input

def hexDigit? (c : Char) : Option Nat :=
  if '0' ≤ c ∧ c ≤ '9' then some (c.toNat - 48)
  else if 'a' ≤ c ∧ c ≤ 'f' then some (c.toNat - 87)
  else if 'A' ≤ c ∧ c ≤ 'F' then some (c.toNat - 55)
  else none

/-- The character of a number, unless it is half a pair. -/
def scalar? (code : Nat) : Option Char :=
  if h : code.isValidChar then some (Char.ofNatAux code h) else none

/-- Four hexadecimal digits. -/
def codeUnit : List Char → Option (Nat × List Char)
  | a :: b :: c :: d :: rest =>
    match hexDigit? a, hexDigit? b, hexDigit? c, hexDigit? d with
    | some a, some b, some c, some d => some (((a * 16 + b) * 16 + c) * 16 + d, rest)
    | _, _, _, _ => none
  | _ => none

/-- The second half of a surrogate pair, if it follows. -/
def lowSurrogate (input : List Char) : Option (Nat × List Char) :=
  match input with
  | '\\' :: 'u' :: rest =>
    match codeUnit rest with
    | some (unit, rest) => if 0xDC00 ≤ unit ∧ unit < 0xE000 then some (unit, rest) else none
    | none => none
  | _ => none

def escaped? (c : Char) : Option Char :=
  match c with
  | '"' => some '"'
  | '\\' => some '\\'
  | '/' => some '/'
  | 'b' => some '\x08'
  | 'f' => some '\x0c'
  | 'n' => some '\n'
  | 'r' => some '\r'
  | 't' => some '\t'
  | _ => none

/-- The rest of a string after its opening quote.  `valid` turns false at half a
surrogate pair; `seen` holds the characters so far, last first. -/
def stringFrom : Nat → Bool → List Char → List Char → Option (Option String × List Char)
  | 0, _, _, _ => none
  | fuel + 1, valid, seen, input =>
    match input with
    | [] => none
    | '"' :: rest => some (if valid then some (String.ofList seen.reverse) else none, rest)
    | '\\' :: 'u' :: rest =>
      match codeUnit rest with
      | none => none
      | some (unit, rest) =>
        if 0xD800 ≤ unit ∧ unit < 0xDC00 then
          match lowSurrogate rest with
          | some (low, rest) =>
            let code := 0x10000 + (unit - 0xD800) * 0x400 + (low - 0xDC00)
            stringFrom fuel valid (Char.ofNat code :: seen) rest
          | none => stringFrom fuel false seen rest
        else if 0xDC00 ≤ unit ∧ unit < 0xE000 then stringFrom fuel false seen rest
        else stringFrom fuel valid (Char.ofNat unit :: seen) rest
    | '\\' :: c :: rest =>
      match escaped? c with
      | some c => stringFrom fuel valid (c :: seen) rest
      | none => none
    | c :: rest => if c.toNat < 0x20 then none else stringFrom fuel valid (c :: seen) rest

/-- A string after its opening quote. -/
def string (input : List Char) : Option (Option String × List Char) :=
  stringFrom (input.length + 1) true [] input

mutual
/-- One value, blanks before it allowed. -/
def value : Nat → List Char → Option (Document × List Char)
  | 0, _ => none
  | fuel + 1, input =>
    match skipBlank input with
    | 'n' :: 'u' :: 'l' :: 'l' :: rest => some (.null, rest)
    | 't' :: 'r' :: 'u' :: 'e' :: rest => some (.bool true, rest)
    | 'f' :: 'a' :: 'l' :: 's' :: 'e' :: rest => some (.bool false, rest)
    | '"' :: rest => (string rest).map (fun (text, rest) => (.string text, rest))
    | '[' :: rest =>
      match skipBlank rest with
      | ']' :: rest => some (.array [], rest)
      | rest => items fuel [] rest
    | '{' :: rest =>
      match skipBlank rest with
      | '}' :: rest => some (.object [], rest)
      | rest => members fuel [] rest
    | rest => number rest

/-- The items of an array up to its closing bracket. -/
def items : Nat → List Document → List Char → Option (Document × List Char)
  | 0, _, _ => none
  | fuel + 1, seen, input =>
    match value fuel input with
    | none => none
    | some (item, rest) =>
      match skipBlank rest with
      | ',' :: rest => items fuel (item :: seen) rest
      | ']' :: rest => some (.array (item :: seen).reverse, rest)
      | _ => none

/-- The members of an object up to its closing brace. -/
def members : Nat → List (Option String × Document) → List Char → Option (Document × List Char)
  | 0, _, _ => none
  | fuel + 1, seen, input =>
    match skipBlank input with
    | '"' :: rest =>
      match string rest with
      | none => none
      | some (key, rest) =>
        match skipBlank rest with
        | ':' :: rest =>
          match value fuel rest with
          | none => none
          | some (item, rest) =>
            match skipBlank rest with
            | ',' :: rest => members fuel ((key, item) :: seen) rest
            | '}' :: rest => some (.object ((key, item) :: seen).reverse, rest)
            | _ => none
        | _ => none
    | _ => none
end

end Document.Reader

def Document.parse? (text : String) : Option Document :=
  let input := text.toList
  match Document.Reader.value (2 * input.length + 2) input with
  | some (document, rest) => if (Document.Reader.skipBlank rest).isEmpty then some document else none
  | none => none

def Value.parse? (text : String) : Option Value :=
  (Document.parse? text).bind (Document.toValue? Document.nestingLimit)

end Plugboard
