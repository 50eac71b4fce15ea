import Plugboard.Data.Parser
import Plugboard.Text.Alphanumeric
/-!
# Search patterns

A search pattern describes texts: with groups, alternatives, repetitions, sets of
characters and escapes.  This module says which patterns are well formed.  No tables of
Unicode are at hand for patterns: one that needs them, for a kind of character or to
ignore case, is not well formed, unless it keeps to ASCII.
-/

namespace Plugboard.Text.Pattern

/-- How the letters of a pattern are to be understood. -/
structure Mode where
  /-- Lower and upper case are not told apart. -/
  ignoresCase : Bool
  /-- Kinds of characters are those of ASCII. -/
  isAscii : Bool
  deriving DecidableEq, Repr

/-- Characters with a case and sets of characters need the tables of Unicode. -/
def Mode.needsFolding (mode : Mode) : Bool := mode.ignoresCase && !mode.isAscii

/-! ## Escapes -/

/-- What an escape stands for. -/
inductive Escape where
  | character (c : Char)
  /-- Any character of a kind. -/
  | kind
  /-- A place between characters. -/
  | place
  deriving DecidableEq, Repr

/-- The character of so many hexadecimal digits. -/
def hexCharacter (count : Nat) (input : List Char) : Option (Char × List Char) :=
  let digits := input.take count
  if digits.length < count then none
  else
    match digits.mapM Document.Reader.hexDigit? with
    | some digits =>
      (Document.Reader.scalar? (digits.foldl (fun code digit => code * 16 + digit) 0)).map fun c =>
        (c, input.drop count)
    | none => none

/-- An escape after its backslash.  Every ASCII mark may be escaped but the two angles. -/
def escape (mode : Mode) : List Char → Option (Escape × List Char)
  | [] => none
  | 'x' :: rest =>
    match hexCharacter 2 rest with
    | some (c, rest) => if mode.isAscii && 0x80 ≤ c.toNat then none else some (.character c, rest)
    | none => none
  | 'u' :: rest => (hexCharacter 4 rest).map fun (c, rest) => (.character c, rest)
  | 'U' :: rest => (hexCharacter 8 rest).map fun (c, rest) => (.character c, rest)
  | 'A' :: rest | 'z' :: rest => some (.place, rest)
  | 'a' :: rest => some (.character '\x07', rest)
  | 'f' :: rest => some (.character '\x0c', rest)
  | 'n' :: rest => some (.character '\n', rest)
  | 'r' :: rest => some (.character '\r', rest)
  | 't' :: rest => some (.character '\t', rest)
  | 'v' :: rest => some (.character '\x0b', rest)
  | 'b' :: rest | 'B' :: rest | '<' :: rest | '>' :: rest =>
    if mode.isAscii then some (.place, rest) else none
  | 'd' :: rest | 's' :: rest | 'w' :: rest =>
    if mode.isAscii then some (.kind, rest) else none
  | c :: rest =>
    if 0x80 ≤ c.toNat || c.isAlphanum then none else some (.character c, rest)

/-! ## Sets of characters -/

/-- The named kinds of ASCII characters. -/
def namedKinds : List String :=
  ["alnum", "alpha", "ascii", "blank", "cntrl", "digit", "graph", "lower", "print", "punct",
   "space", "upper", "word", "xdigit"]

/-- A named kind in a set, after its opening bracket: `:name:]`. -/
def namedKind (input : List Char) : Option (List Char) :=
  match input with
  | ':' :: rest =>
    let rest :=
      match rest with
      | '^' :: rest => rest
      | _ => rest
    let name := rest.takeWhile (· != ':')
    match rest.drop name.length with
    | ':' :: ']' :: rest =>
      if namedKinds.contains (String.ofList name) then some rest else none
    | _ => none
  | _ => none

/-- The beginning of a set after its opening bracket.  Hyphens stand for themselves there,
and without them a closing bracket does. -/
def setStart (mode : Mode) (input : List Char) : Option (List Char) :=
  let finish := fun (input : List Char) =>
    match input with
    | '-' :: _ => some (input.dropWhile (· == '-'))
    | ']' :: rest => some rest
    | _ => some input
  match input with
  | '^' :: rest => if mode.isAscii then none else finish rest
  | _ => finish input

/-- A character of a set or an escape in it. -/
def setItem (mode : Mode) : List Char → Option (Escape × List Char)
  | '\\' :: rest => escape mode rest
  | c :: rest => if mode.isAscii && 0x80 ≤ c.toNat then none else some (.character c, rest)
  | [] => none

/-- An item of a set, or two characters with a hyphen between them, the lesser first. -/
def setRange (mode : Mode) (input : List Char) : Option (List Char) :=
  match setItem mode input with
  | none => none
  | some (item, '-' :: rest) =>
    match item, rest with
    | .place, _ => none
    | _, ']' :: _ | _, '-' :: _ => some ('-' :: rest)
    | .character first, _ =>
      match setItem mode rest with
      | some (.character last, rest) => if first ≤ last then some rest else none
      | _ => none
    | .kind, _ => none
  | some (.place, _) => none
  | some (_, rest) => some rest

/-- The rest of nested sets, so many of them open; their brackets are closed in turn. -/
def setRest (mode : Mode) : Nat → Nat → List Char → Option (List Char)
  | 0, _, _ => none
  | fuel + 1, opened, input =>
    match input with
    | [] => none
    | '[' :: rest =>
      match namedKind rest with
      | some rest => setRest mode fuel opened rest
      | none =>
        match setStart mode rest with
        | some rest => setRest mode fuel (opened + 1) rest
        | none => none
    | ']' :: rest => if opened = 0 then some rest else setRest mode fuel (opened - 1) rest
    | '&' :: '&' :: rest | '-' :: '-' :: rest | '~' :: '~' :: rest =>
      setRest mode fuel opened rest
    | _ =>
      match setRange mode input with
      | some rest => setRest mode fuel opened rest
      | none => none

/-- A set after its opening bracket. -/
def set (mode : Mode) (input : List Char) : Option (List Char) :=
  if mode.needsFolding then none
  else (setStart mode input).bind fun rest => setRest mode (input.length + 1) 0 rest

/-! ## Groups -/

/-- The letters that may be set or cleared for a group. -/
def options : List Char := ['i', 'm', 's', 'U', 'u', 'R', 'x']

/-- Options up to the mark that ends them, each at most once; those behind a hyphen are
cleared.  A closing bracket does not follow without any. -/
def optionsRest (mode : Mode) (seen : List Char) (isClearing : Bool) :
    List Char → Option (Mode × List Char)
  | [] => none
  | c :: rest =>
    if c = ')' ∨ c = ':' then
      if seen.head? = some '-' then none
      else if c = ')' ∧ seen.isEmpty then none
      else some (mode, c :: rest)
    else if seen.contains c then none
    else if c = '-' then optionsRest mode (c :: seen) true rest
    else if !options.contains c then none
    else
      let mode :=
        if c = 'i' then { mode with ignoresCase := !isClearing }
        else if c = 'u' then { mode with isAscii := isClearing }
        else mode
      optionsRest mode (c :: seen) isClearing rest

/-- The name of a group up to its closing angle. -/
def groupName (input : List Char) : Option (String × List Char) :=
  let name := input.takeWhile (· != '>')
  match name, input.drop name.length with
  | first :: others, '>' :: rest =>
    let canStart := first == '_' || (isAlphanumeric first && !first.isDigit)
    let canFollow := fun (c : Char) =>
      c == '_' || c == '.' || c == '[' || c == ']' || isAlphanumeric c
    if canStart && others.all canFollow then some (String.ofList name, rest) else none
  | _, _ => none

/-! ## Patterns -/

/-- What is known in the middle of a pattern. -/
structure Progress where
  mode : Mode
  /-- The modes outside the groups that are open, the innermost first. -/
  outer : List Mode
  /-- The names of groups. -/
  names : List String
  /-- There is something to repeat. -/
  canRepeat : Bool

/-- At the start of a pattern. -/
def Progress.start : Progress := ⟨⟨false, false⟩, [], [], false⟩

/-- Opens a group in which a mode holds. -/
def Progress.opening (progress : Progress) (mode : Mode) : Progress :=
  { progress with mode, outer := progress.mode :: progress.outer, canRepeat := false }

/-- A group after its opening bracket. -/
def group (progress : Progress) (input : List Char) : Option (Progress × List Char) :=
  let named := fun (input : List Char) =>
    match groupName input with
    | some (name, rest) =>
      if progress.names.contains name then none
      else
        let progress := { progress with names := name :: progress.names }
        some (progress.opening progress.mode, rest)
    | none => none
  match input with
  | '?' :: '<' :: '=' :: _ | '?' :: '<' :: '!' :: _ => none
  | '?' :: '<' :: rest | '?' :: 'P' :: '<' :: rest => named rest
  | '?' :: rest =>
    match optionsRest progress.mode [] false rest with
    | some (mode, ':' :: rest) => some (progress.opening mode, rest)
    | some (mode, _ :: rest) => some ({ progress with mode, canRepeat := false }, rest)
    | _ => none
  | _ => some (progress.opening progress.mode, input)

/-- One step through a pattern.  A brace would have to be closed, but nothing is there
that could close it. -/
def step (progress : Progress) : List Char → Option (Progress × List Char)
  | [] => none
  | '(' :: rest => group progress rest
  | ')' :: rest =>
    match progress.outer with
    | mode :: outer => some ({ progress with mode, outer, canRepeat := true }, rest)
    | [] => none
  | '|' :: rest => some ({ progress with canRepeat := false }, rest)
  | '?' :: rest | '*' :: rest | '+' :: rest =>
    if progress.canRepeat then some (progress, rest) else none
  | '\x7b' :: _ => none
  | '[' :: rest =>
    (set progress.mode rest).map fun rest => ({ progress with canRepeat := true }, rest)
  | '.' :: rest =>
    if progress.mode.isAscii then none else some ({ progress with canRepeat := true }, rest)
  | '^' :: rest | '$' :: rest => some ({ progress with canRepeat := true }, rest)
  | '\\' :: rest =>
    match escape progress.mode rest with
    | some (.character _, rest) =>
      if progress.mode.needsFolding then none
      else some ({ progress with canRepeat := true }, rest)
    | some (_, rest) => some ({ progress with canRepeat := true }, rest)
    | none => none
  | _ :: rest =>
    if progress.mode.needsFolding then none
    else some ({ progress with canRepeat := true }, rest)

/-- Steps through a pattern to its end, where no group may be open. -/
def stepAll : Nat → Progress → List Char → Bool
  | 0, _, _ => false
  | _ + 1, progress, [] => progress.outer.isEmpty
  | fuel + 1, progress, input =>
    match step progress input with
    | some (progress, rest) => stepAll fuel progress rest
    | none => false

/-- A text is a pattern without counted repetitions, and a well-formed one. -/
def isWellFormed (text : List Char) : Bool := stepAll (text.length + 1) .start text

end Plugboard.Text.Pattern
