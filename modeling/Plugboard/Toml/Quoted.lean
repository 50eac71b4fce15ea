import Plugboard.Data.Parser
/-!
# Quoted text

Text between double quotes has escapes, text between single quotes has none; both also
come between three quotes, where they may run over several lines.  Each reader takes
the characters after the opening quotes, with those read so far, last first.
-/

namespace Plugboard.Toml

def isSpace (c : Char) : Bool := c == ' ' || c == '\t'

/-- Characters that may stand in text as they are; a tab is the only control among them. -/
def isPlain (c : Char) : Bool := c == '\t' || (0x20 ≤ c.toNat && c.toNat != 0x7f)

/-- The character of four hexadecimal digits, after as many before it. -/
def hexScalar? (high : Nat) (a b c d : Char) : Option Char :=
  match Document.Reader.codeUnit [a, b, c, d] with
  | some (code, _) => Document.Reader.scalar? (high * 0x10000 + code)
  | none => none

/-- The character of a one-letter escape. -/
def escaped? (c : Char) : Option Char := if c = '/' then none else Document.Reader.escaped? c

/-- Only spaces are left of the line. -/
def endsLine : List Char → Bool
  | ' ' :: rest | '\t' :: rest => endsLine rest
  | '\n' :: _ | '\r' :: '\n' :: _ => true
  | _ => false

/-- Text between double quotes on one line. -/
def basic (seen : List Char) : List Char → Option (String × List Char)
  | '"' :: rest => some (String.ofList seen.reverse, rest)
  | '\\' :: 'u' :: a :: b :: c :: d :: rest =>
    match hexScalar? 0 a b c d with
    | some char => basic (char :: seen) rest
    | none => none
  | '\\' :: 'U' :: a :: b :: c :: d :: e :: f :: g :: h :: rest =>
    match Document.Reader.codeUnit [a, b, c, d] with
    | some (high, _) =>
      match hexScalar? high e f g h with
      | some char => basic (char :: seen) rest
      | none => none
    | none => none
  | '\\' :: c :: rest =>
    match escaped? c with
    | some char => basic (char :: seen) rest
    | none => none
  | c :: rest => if isPlain c then basic (c :: seen) rest else none
  | [] => none

/-- Text between single quotes on one line. -/
def verbatim (seen : List Char) : List Char → Option (String × List Char)
  | '\'' :: rest => some (String.ofList seen.reverse, rest)
  | c :: rest => if isPlain c then verbatim (c :: seen) rest else none
  | [] => none

/-- Text between three double quotes.  One or two quotes may stand before the closing
three.  After a backslash at the end of a line everything blank is left out. -/
def basicLines (isTrimming : Bool) (seen : List Char) : List Char → Option (String × List Char)
  | '"' :: '"' :: '"' :: '"' :: '"' :: rest =>
    some (String.ofList ('"' :: '"' :: seen).reverse, rest)
  | '"' :: '"' :: '"' :: '"' :: rest => some (String.ofList ('"' :: seen).reverse, rest)
  | '"' :: '"' :: '"' :: rest => some (String.ofList seen.reverse, rest)
  | '\\' :: 'u' :: a :: b :: c :: d :: rest =>
    match hexScalar? 0 a b c d with
    | some char => basicLines false (char :: seen) rest
    | none => none
  | '\\' :: 'U' :: a :: b :: c :: d :: e :: f :: g :: h :: rest =>
    match Document.Reader.codeUnit [a, b, c, d] with
    | some (high, _) =>
      match hexScalar? high e f g h with
      | some char => basicLines false (char :: seen) rest
      | none => none
    | none => none
  | '\\' :: c :: rest =>
    match escaped? c with
    | some char => basicLines false (char :: seen) rest
    | none => if endsLine (c :: rest) then basicLines true seen (c :: rest) else none
  | '\r' :: '\n' :: rest =>
    if isTrimming then basicLines true seen rest else basicLines false ('\n' :: seen) rest
  | '\n' :: rest =>
    if isTrimming then basicLines true seen rest else basicLines false ('\n' :: seen) rest
  | c :: rest =>
    if isTrimming && isSpace c then basicLines true seen rest
    else if isPlain c then basicLines false (c :: seen) rest
    else none
  | [] => none

/-- Text between three single quotes. -/
def verbatimLines (seen : List Char) : List Char → Option (String × List Char)
  | '\'' :: '\'' :: '\'' :: '\'' :: '\'' :: rest =>
    some (String.ofList ('\'' :: '\'' :: seen).reverse, rest)
  | '\'' :: '\'' :: '\'' :: '\'' :: rest => some (String.ofList ('\'' :: seen).reverse, rest)
  | '\'' :: '\'' :: '\'' :: rest => some (String.ofList seen.reverse, rest)
  | '\r' :: '\n' :: rest => verbatimLines ('\n' :: seen) rest
  | '\n' :: rest => verbatimLines ('\n' :: seen) rest
  | c :: rest => if isPlain c then verbatimLines (c :: seen) rest else none
  | [] => none

/-- A line break right after three opening quotes does not count. -/
def skipFirstBreak : List Char → List Char
  | '\n' :: rest | '\r' :: '\n' :: rest => rest
  | rest => rest

end Plugboard.Toml
