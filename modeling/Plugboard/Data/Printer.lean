import Plugboard.Data.Value
import Plugboard.Data.Shortest
/-!
# Compact text of values

Values print as JSON without blanks, members in key order.  A float prints the
fewest digits that read back, always with a point or an exponent.
-/

namespace Plugboard

/-- Where positional notation ends: exponents from `least` to `greatest` are written
with a point, all others with an exponent. -/
structure FloatFormat where
  least : Int
  greatest : Int

/-- Values write `0.00001` and `1000000000000000.0` but `1e-6` and `1e+16`. -/
def Value.floatFormat : FloatFormat := ⟨-5, 15⟩

namespace Float64

/-- Digits with the point after the first `whole` of them, padded with zeros on either side. -/
def positional (digits : List Char) (whole : Int) : List Char :=
  if whole ≤ 0 then
    '0' :: '.' :: List.replicate (-whole).toNat '0' ++ digits
  else
    let count := whole.toNat
    let before := digits.take count ++ List.replicate (count - digits.length) '0'
    let after := digits.drop count
    before ++ '.' :: (if after.isEmpty then ['0'] else after)

/-- One digit, the others after a point, and the exponent with its sign. -/
def scientific (digits : List Char) (exponent : Int) : List Char :=
  let mantissa :=
    match digits with
    | first :: second :: rest => first :: '.' :: second :: rest
    | short => short
  let sign := if exponent < 0 then '-' else '+'
  mantissa ++ 'e' :: sign :: (toString exponent.natAbs).toList

/-- The text of a finite number. -/
def text (format : FloatFormat) (x : Float64) : String :=
  let body :=
    if x.isZero then ['0', '.', '0']
    else
      let decimal := x.shortest
      let digits := (toString decimal.digits).toList
      let exponent := decimal.exponent + digits.length - 1
      if format.least ≤ exponent ∧ exponent ≤ format.greatest then
        positional digits (exponent + 1)
      else scientific digits exponent
  String.ofList (if x.negative then '-' :: body else body)

end Float64

def Number.text : Number → String
  | .integer value => toString value
  | .float value => value.text Value.floatFormat

namespace Value

def hexDigit (n : Nat) : Char := Char.ofNat (if n < 10 then 48 + n else 87 + n)

/-- A character inside a quoted string. -/
def escape (c : Char) : List Char :=
  match c with
  | '"' => ['\\', '"']
  | '\\' => ['\\', '\\']
  | '\x08' => ['\\', 'b']
  | '\x0c' => ['\\', 'f']
  | '\n' => ['\\', 'n']
  | '\r' => ['\\', 'r']
  | '\t' => ['\\', 't']
  | c =>
    if c.toNat < 0x20 then
      ['\\', 'u', '0', '0', hexDigit (c.toNat / 16), hexDigit (c.toNat % 16)]
    else [c]

def quoted (text : String) : String :=
  String.ofList ('"' :: text.toList.flatMap escape ++ ['"'])

mutual
/-- The compact text of a value. -/
def text : Value → String
  | .null => "null"
  | .bool true => "true"
  | .bool false => "false"
  | .number n => n.text
  | .string s => quoted s
  | .array items => "[" ++ String.intercalate "," (itemTexts items) ++ "]"
  | .object members => "\x7b" ++ String.intercalate "," (memberTexts members) ++ "\x7d"

def itemTexts : List Value → List String
  | [] => []
  | item :: rest => item.text :: itemTexts rest

def memberTexts : List (String × Value) → List String
  | [] => []
  | (key, item) :: rest => (quoted key ++ ":" ++ item.text) :: memberTexts rest
end

end Value
end Plugboard
