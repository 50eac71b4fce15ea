import Plugboard.Data.Parser
import Plugboard.Declaration.Token
import Plugboard.Text.Name
/-!
# Literals in a declaration

A literal is a text or a character between quotes, of characters or of bytes, or a
number, each with a name directly behind it as its suffix.  Every function here takes
the characters from some point inside a literal on and returns those behind it.
-/

namespace Plugboard.Declaration

/-- The characters behind a name at the start of a text. -/
def afterName? : List Char → Option (List Char)
  | [] => none
  | c :: rest => if Text.isNameStart c then some (rest.dropWhile Text.isNameRest) else none

/-- The characters behind a suffix, if there is one. -/
def afterSuffix (input : List Char) : List Char := (afterName? input).getD input

/-! ## Quoted literals -/

/-- What the characters between quotes stand for. -/
inductive QuotedKind where
  | characters
  /-- Characters beyond ASCII are refused. -/
  | bytes
  /-- The character with the number zero is refused. -/
  | zeroFree
  deriving DecidableEq, Repr

/-- The character may stand between quotes as it is. -/
def QuotedKind.admits (kind : QuotedKind) (c : Char) : Bool :=
  match kind with
  | .characters => true
  | .bytes => c.toNat < 0x80
  | .zeroFree => c.toNat != 0

/-- The number of two hexadecimal digits. -/
def hexPair? (high low : Char) : Option Nat :=
  match Document.Reader.hexDigit? high, Document.Reader.hexDigit? low with
  | some high, some low => some (high * 16 + low)
  | _, _ => none

/-- The number may be written with two hexadecimal digits. -/
def QuotedKind.admitsNumber (kind : QuotedKind) (code : Nat) : Bool :=
  match kind with
  | .characters => code < 0x80
  | .bytes => true
  | .zeroFree => code != 0

def QuotedKind.isEscape (kind : QuotedKind) (c : Char) : Bool :=
  ['n', 'r', 't', '\\', '\'', '"'].contains c || (c == '0' && kind != .zeroFree)

/-- The number of a character in braces, of up to six digits, of which `count` have been
read; underscores may separate digits. -/
def bracedNumber (total count : Nat) : List Char → Option (Nat × List Char)
  | [] => none
  | c :: rest =>
    if c = '_' ∧ 0 < count then bracedNumber total count rest
    else if c = '\x7d' ∧ 0 < count then
      if total.isValidChar then some (total, rest) else none
    else
      match Document.Reader.hexDigit? c with
      | some digit => if count < 6 then bracedNumber (total * 16 + digit) (count + 1) rest else none
      | none => none

/-- The characters behind the blanks that follow an escaped line break. -/
def afterLineBreak : List Char → Option (List Char)
  | [] => none
  | '\r' :: '\n' :: rest => afterLineBreak rest
  | '\r' :: _ => none
  | c :: rest => if c = ' ' ∨ c = '\t' ∨ c = '\n' then afterLineBreak rest else some (c :: rest)

/-- The characters behind an escape, after its backslash. -/
def afterEscape? (kind : QuotedKind) : List Char → Option (List Char)
  | 'x' :: high :: low :: rest =>
    match hexPair? high low with
    | some code => if kind.admitsNumber code then some rest else none
    | none => none
  | 'u' :: '\x7b' :: rest =>
    match bracedNumber 0 0 rest with
    | some (code, rest) =>
      if kind = .bytes ∨ (kind = .zeroFree ∧ code = 0) then none else some rest
    | none => none
  | c :: rest => if kind.isEscape c then some rest else none
  | [] => none

/-- The characters behind a text, after its opening quote. -/
def afterText (kind : QuotedKind) : Nat → List Char → Option (List Char)
  | 0, _ => none
  | fuel + 1, input =>
    match input with
    | [] => none
    | '"' :: rest => some (afterSuffix rest)
    | '\r' :: '\n' :: rest => afterText kind fuel rest
    | '\r' :: _ => none
    | '\\' :: '\n' :: rest | '\\' :: '\r' :: '\n' :: rest =>
      match afterLineBreak rest with
      | some rest => afterText kind fuel rest
      | none => none
    | '\\' :: rest =>
      match afterEscape? kind rest with
      | some rest => afterText kind fuel rest
      | none => none
    | c :: rest => if kind.admits c then afterText kind fuel rest else none

/-- The characters behind a text without escapes, after its opening quote.  It ends with
a quote and as many number signs as it began with. -/
def afterRawText (kind : QuotedKind) (signs : Nat) : List Char → Option (List Char)
  | [] => none
  | '"' :: rest =>
    if (rest.take signs).length = signs ∧ (rest.take signs).all (· == '#') then
      some (afterSuffix (rest.drop signs))
    else afterRawText kind signs rest
  | '\r' :: '\n' :: rest => afterRawText kind signs rest
  | '\r' :: _ => none
  | c :: rest => if kind.admits c then afterRawText kind signs rest else none

/-- The characters behind a text with escapes or, after the letter `r`, without. -/
def afterQuoted? (kind : QuotedKind) : List Char → Option (List Char)
  | '"' :: rest => afterText kind (rest.length + 1) rest
  | 'r' :: rest =>
    let signs := (rest.takeWhile (· == '#')).length
    match rest.drop signs with
    | '"' :: rest => if signs ≤ 255 then afterRawText kind signs rest else none
    | _ => none
  | _ => none

/-- The characters behind a single character, after its opening quote. -/
def afterCharacter? (kind : QuotedKind) (input : List Char) : Option (List Char) :=
  let afterOne :=
    match input with
    | [] => none
    | '\\' :: rest => afterEscape? kind rest
    | c :: rest => if kind.admits c then some rest else none
  match afterOne with
  | some ('\'' :: rest) => some (afterSuffix rest)
  | _ => none

/-! ## Numbers -/

/-- The characters behind digits, underscores and a point, and whether there is a point.
A point is part of the number unless another point or a name follows it. -/
def afterMantissa (hasPoint : Bool) : List Char → Option (Bool × List Char)
  | [] => some (hasPoint, [])
  | c :: rest =>
    if c = '.' then
      if hasPoint then some (true, c :: rest)
      else if (rest.head?.map fun d => d == '.' || Text.isNameStart d).getD false then none
      else afterMantissa true rest
    else if c.isDigit || c == '_' then afterMantissa hasPoint rest
    else some (hasPoint, c :: rest)

/-- The characters behind an exponent, after its letter; it has a digit. -/
def afterExponent (hasSign hasDigit : Bool) : List Char → Option (List Char)
  | [] => if hasDigit then some [] else none
  | c :: rest =>
    if c = '+' ∨ c = '-' then
      if hasDigit then some (c :: rest)
      else if hasSign then none
      else afterExponent true false rest
    else if c.isDigit then afterExponent hasSign true rest
    else if c = '_' then afterExponent hasSign hasDigit rest
    else if hasDigit then some (c :: rest)
    else none

/-- The characters behind a suffix, unless more of a word would follow it. -/
def endOfNumber? (input : List Char) : Option (List Char) :=
  let rest := afterSuffix input
  if (rest.head?.map Text.isNameRest).getD false then none else some rest

/-- The characters behind a number with a point or an exponent. -/
def afterDecimal? (input : List Char) : Option (List Char) :=
  if (input.head?.map Char.isDigit).getD false then
    match afterMantissa false input with
    | none => none
    | some (hasPoint, rest) =>
      let withoutExponent := if hasPoint then some rest else none
      let digitsEnd :=
        match rest with
        | 'e' :: exponent | 'E' :: exponent =>
          afterExponent false false exponent <|> withoutExponent
        | _ => withoutExponent
      digitsEnd.bind endOfNumber?
  else none

/-- The characters behind the digits of an integer.  A digit that is too large for the
base is refused, a letter that is too large ends the digits. -/
def afterDigits (base : Nat) (isEmpty : Bool) : List Char → Option (List Char)
  | [] => if isEmpty then none else some []
  | c :: rest =>
    if c = '_' then
      if isEmpty && base == 10 then none else afterDigits base isEmpty rest
    else
      match Document.Reader.hexDigit? c with
      | some digit =>
        if digit < base then afterDigits base false rest
        else if c.isDigit || isEmpty then none
        else some (c :: rest)
      | none => if isEmpty then none else some (c :: rest)

/-- The characters behind an integer. -/
def afterInteger? (input : List Char) : Option (List Char) :=
  let digitsEnd :=
    match input with
    | '0' :: 'x' :: rest => afterDigits 16 true rest
    | '0' :: 'o' :: rest => afterDigits 8 true rest
    | '0' :: 'b' :: rest => afterDigits 2 true rest
    | _ => afterDigits 10 true input
  digitsEnd.bind endOfNumber?

/-! ## All literals -/

/-- The characters behind a quoted literal, with its letters in front. -/
def afterQuotedLiteral? (input : List Char) : Option (LiteralKind × List Char) :=
  let other := fun (rest : List Char) => (LiteralKind.other, rest)
  (afterQuoted? .characters input).map (LiteralKind.text, ·) <|>
    match input with
    | 'b' :: '\'' :: rest => (afterCharacter? .bytes rest).map other
    | 'b' :: rest => (afterQuoted? .bytes rest).map other
    | 'c' :: rest => (afterQuoted? .zeroFree rest).map other
    | '\'' :: rest => (afterCharacter? .characters rest).map other
    | _ => none

/-- The literal at the start of a text, and the characters behind it. -/
def literal? (input : List Char) : Option (TokenTree × List Char) :=
  let found :=
    afterQuotedLiteral? input <|> (afterDecimal? input).map (LiteralKind.decimal, ·) <|>
      (afterInteger? input).map (LiteralKind.integer, ·)
  found.map fun (kind, rest) =>
    (.literal kind (String.ofList (input.take (input.length - rest.length))), rest)

end Plugboard.Declaration
