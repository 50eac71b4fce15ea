import Plugboard.Data.NumberText
/-!
# Numbers, dates and other bare words

A value that is neither quoted nor bracketed is a word of letters, digits and a few
marks.  The word as a whole has to be a truth value, a number or a point in time.
-/

namespace Plugboard.Toml

def isBinaryDigit (c : Char) : Bool := c == '0' || c == '1'
def isOctalDigit (c : Char) : Bool := '0' ≤ c && c ≤ '7'
def isHexDigit (c : Char) : Bool := (Document.Reader.hexDigit? c).isSome

/-- The value of a digit in any base up to sixteen. -/
def digitValue (c : Char) : Nat := (Document.Reader.hexDigit? c).getD 0

def natural (base : Nat) (digits : List Char) : Nat :=
  digits.foldl (fun total digit => total * base + digitValue digit) 0

/-- Takes single underscores between digits away. -/
def ungrouped? (isDigit : Char → Bool) : List Char → Option (List Char)
  | [] => none
  | [c] => if isDigit c then some [c] else none
  | c :: '_' :: rest =>
    if isDigit c then (ungrouped? isDigit rest).map (c :: ·) else none
  | c :: rest => if isDigit c then (ungrouped? isDigit rest).map (c :: ·) else none

/-- Digits of the whole part of a number: no zero leads others. -/
def wholeDigits? (word : List Char) : Option (List Char) :=
  match word with
  | '0' :: _ :: _ => none
  | _ => ungrouped? Char.isDigit word

/-- An integer that fits in 64 bits with a sign. -/
def fitting (value : Int) : Option Value :=
  if -(Nat.pow 2 63) ≤ value ∧ value < Nat.pow 2 63 then some (.ofInt value) else none

def integer? (word : List Char) : Option Value :=
  match word with
  | '0' :: 'x' :: rest => (ungrouped? isHexDigit rest).bind fun ds => fitting (natural 16 ds)
  | '0' :: 'o' :: rest => (ungrouped? isOctalDigit rest).bind fun ds => fitting (natural 8 ds)
  | '0' :: 'b' :: rest => (ungrouped? isBinaryDigit rest).bind fun ds => fitting (natural 2 ds)
  | _ =>
    let (isNegative, rest) := Numeral.signed word
    (wholeDigits? rest).bind fun digits =>
      fitting (if isNegative then -(natural 10 digits) else natural 10 digits)

/-- The exponent after its letter. -/
def exponent? (word : List Char) : Option (Bool × List Nat) :=
  let (isNegative, rest) := Numeral.signed word
  (ungrouped? Char.isDigit rest).map fun digits => (isNegative, digits.map digitValue)

def isExponentLetter (c : Char) : Bool := c == 'e' || c == 'E'

/-- A number with a point or an exponent.  Of the numbers beyond the largest only negative
ones may be written; they are minus infinity. -/
def decimal? (word : List Char) : Option Float64 :=
  let (isNegative, rest) := Numeral.signed word
  let mantissa := rest.takeWhile (fun c => !isExponentLetter c)
  let whole := mantissa.takeWhile (· != '.')
  let fraction? : Option (List Char) :=
    match mantissa.drop whole.length with
    | [] => some []
    | _ :: digits => ungrouped? Char.isDigit digits
  let exponent : Option (Option (Bool × List Nat)) :=
    match rest.drop mantissa.length with
    | [] => some none
    | _ :: digits => (exponent? digits).map some
  match wholeDigits? whole, fraction?, exponent with
  | some digits, some fraction, some exponent =>
    let numeral : Numeral :=
      { negative := isNegative, whole := digits.map digitValue
        fraction := fraction.map digitValue, isFractional := true, exponent }
    if numeral.nearest = Float64.infinity false then none else some numeral.nearest
  | _, _, _ => none

def float? (word : List Char) : Option Value :=
  let (isNegative, rest) := Numeral.signed word
  match rest with
  | ['i', 'n', 'f'] => some (.number (.float (.infinity isNegative)))
  | ['n', 'a', 'n'] => some (.number (.float .nan))
  | _ =>
    if rest.any (fun c => c == '.' || isExponentLetter c) then
      (decimal? word).map fun value => .number (.float value)
    else none

/-! ## Points in time -/

/-- A number of exactly `count` digits, and what follows. -/
def fixedDigits (count : Nat) (word : List Char) : Option (Nat × List Char) :=
  let digits := word.take count
  if digits.length = count ∧ digits.all Char.isDigit then
    some (natural 10 digits, word.drop count)
  else none

def isLeapYear (year : Nat) : Bool :=
  (year % 4 == 0 && year % 100 != 0) || year % 400 == 0

def daysOfMonth (year month : Nat) : Nat :=
  if month = 2 then (if isLeapYear year then 29 else 28)
  else if month = 4 ∨ month = 6 ∨ month = 9 ∨ month = 11 then 30
  else 31

/-- What follows a date at the start of a word. -/
def afterDate (word : List Char) : Option (List Char) := do
  let (year, rest) ← fixedDigits 4 word
  let '-' :: rest := rest | none
  let (month, rest) ← fixedDigits 2 rest
  let '-' :: rest := rest | none
  let (day, rest) ← fixedDigits 2 rest
  if 1 ≤ month ∧ month ≤ 12 ∧ 1 ≤ day ∧ day ≤ daysOfMonth year month then some rest else none

/-- What follows a time of day at the start of a word. -/
def afterTime (word : List Char) : Option (List Char) := do
  let (hour, rest) ← fixedDigits 2 word
  let ':' :: rest := rest | none
  let (minute, rest) ← fixedDigits 2 rest
  let ':' :: rest := rest | none
  let (second, rest) ← fixedDigits 2 rest
  if 23 < hour ∨ 59 < minute ∨ 60 < second then none
  else
    match rest with
    | '.' :: fraction =>
      let digits := fraction.takeWhile Char.isDigit
      if digits.isEmpty then none else some (fraction.drop digits.length)
    | _ => some rest

/-- The rest of a point in time is its distance from universal time. -/
def isOffset (word : List Char) : Bool :=
  match word with
  | ['Z'] | ['z'] => true
  | [sign, h₁, h₂, ':', m₁, m₂] =>
    (sign == '+' || sign == '-') && [h₁, h₂, m₁, m₂].all Char.isDigit &&
      natural 10 [h₁, h₂] ≤ 23 && natural 10 [m₁, m₂] ≤ 59
  | _ => false

def isMoment (word : List Char) : Bool :=
  match afterDate word with
  | some [] => true
  | some ('T' :: rest) | some ('t' :: rest) | some (' ' :: rest) =>
    match afterTime rest with
    | some rest => rest.isEmpty || isOffset rest
    | none => false
  | some _ => false
  | none => afterTime word == some []

/-- A point in time is kept as an object, so that it is never taken for text. -/
def moment? (word : List Char) : Option Value :=
  if isMoment word then some (.record [("date-time", .string (String.ofList word))]) else none

def bareWord? (word : List Char) : Option Value :=
  match word with
  | ['t', 'r', 'u', 'e'] => some (.bool true)
  | ['f', 'a', 'l', 's', 'e'] => some (.bool false)
  | _ => moment? word <|> float? word <|> integer? word

end Plugboard.Toml
