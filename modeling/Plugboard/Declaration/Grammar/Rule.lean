import Plugboard.Declaration.Basic
/-!
# Rules of a grammar

A rule reads token trees from the front of those that are left, writes what it has
read, and may be refused.  Rules look ahead as far as they like before they read.
What is left over between two brackets is remembered, since it is a fault only if
nothing else turns out to be wrong.
-/

namespace Plugboard.Declaration

/-- Where a reader stands. -/
structure Reading where
  /-- The trees that are left, as far as the bracket that is open reaches. -/
  rest : List TokenTree
  /-- What has been written for the trees that were read. -/
  written : List TokenTree
  /-- The first bracket in which something was left over. -/
  surplus : Option Bracket

abbrev Rule := StateT Reading (Except PathFault)

/-! ## Looking ahead -/

/-- Words that cannot be names. -/
def keywords : List String :=
  ["_", "abstract", "as", "async", "await", "become", "box", "break", "const", "continue",
   "crate", "do", "dyn", "else", "enum", "extern", "false", "final", "fn", "for", "if", "impl",
   "in", "let", "loop", "macro", "match", "mod", "move", "mut", "override", "priv", "pub", "ref",
   "return", "Self", "self", "static", "struct", "super", "trait", "true", "try", "type",
   "typeof", "unsafe", "unsized", "use", "virtual", "where", "while", "yield"]

/-- Marks stand here, all but the last joined to the next. -/
def startsMarks : List Char → List TokenTree → Bool
  | [], _ => true
  | [symbol], .mark found _ :: _ => found == symbol
  | symbol :: more, .mark found true :: rest => found == symbol && startsMarks more rest
  | _, _ => false

def startsWithMarks (symbols : String) (trees : List TokenTree) : Bool :=
  startsMarks symbols.toList trees

def startsWithWord (word : String) : List TokenTree → Bool
  | .word found :: _ => found == word
  | _ => false

def startsWithAnyWord : List TokenTree → Bool
  | .word _ :: _ => true
  | _ => false

def startsWithName : List TokenTree → Bool
  | .word found :: _ => !keywords.contains found
  | _ => false

def startsWithLifetime : List TokenTree → Bool
  | .lifetime _ :: _ => true
  | _ => false

def startsWithGroup (bracket : Bracket) : List TokenTree → Bool
  | .group found _ :: _ => found == bracket
  | _ => false

/-- A literal stands here, a truth value or a number with a minus sign among them. -/
def startsWithLiteral : List TokenTree → Bool
  | .literal _ _ :: _ => true
  | .word found :: _ => found == "true" || found == "false"
  | .mark '-' _ :: .literal .integer _ :: _ | .mark '-' _ :: .literal .decimal _ :: _ => true
  | _ => false

/-- Something stands here that leads off a path other than a name. -/
def startsWithPlace (trees : List TokenTree) : Bool :=
  ["super", "self", "Self", "crate"].any fun word => startsWithWord word trees

/-- How a mark or a word is called when it is wanted. -/
def quoted (token : String) : String := "`" ++ token ++ "`"

namespace Rule

variable {α : Type}

/-- The trees that are left. -/
def ahead : Rule (List TokenTree) := return (← get).rest

def isAtEnd : Rule Bool := return (← ahead).isEmpty

/-! ## Refusing -/

def refuse (reason : Refusal) : Rule α := throw (.refused reason)

/-- None of several things is there. -/
def missing (wanted : List String) : Rule α := do throw (.missing (← isAtEnd) wanted)

/-! ## Reading -/

def take (count : Nat) : Rule Unit :=
  modify fun reading =>
    { reading with
      rest := reading.rest.drop count
      written := reading.written ++ reading.rest.take count }

/-- Reads marks, all but the last joined to the next. -/
def marks (symbols : String) : Rule Unit := do
  if startsWithMarks symbols (← ahead) then take symbols.length
  else throw (.missing false [quoted symbols])

/-- Reads marks if they are there, and says if they are. -/
def marks? (symbols : String) : Rule Bool := do
  if startsWithMarks symbols (← ahead) then
    take symbols.length
    return true
  else return false

def word (text : String) : Rule Unit := do
  if startsWithWord text (← ahead) then take 1 else missing [quoted text]

/-- Reads a certain word if it is there, and says if it is. -/
def word? (text : String) : Rule Bool := do
  if startsWithWord text (← ahead) then
    take 1
    return true
  else return false

def name : Rule Unit := do
  match ← ahead with
  | .word found :: _ => if keywords.contains found then throw (.keyword found) else take 1
  | _ => missing ["identifier"]

def lifetime : Rule Unit := do
  if startsWithLifetime (← ahead) then take 1 else missing ["lifetime"]

def lifetime? : Rule Bool := do
  if startsWithLifetime (← ahead) then
    take 1
    return true
  else return false

/-- Reads a literal that has been seen ahead. -/
def literal : Rule Unit := do
  match ← ahead with
  | .mark _ _ :: _ => take 2
  | _ => take 1

/-- Reads two brackets and, by a rule, what stands between them. -/
def within (bracket : Bracket) (rule : Rule α) : Rule α := fun reading =>
  match reading.rest with
  | .group found content :: rest =>
    if found = bracket then
      match rule { reading with rest := content, written := [] } with
      | .error fault => .error fault
      | .ok (result, inside) =>
        let surplus :=
          if inside.surplus.isNone && !inside.rest.isEmpty then some bracket else inside.surplus
        .ok (result, ⟨rest, reading.written ++ [.group bracket inside.written], surplus⟩)
    else .error (.missing false [bracket.name])
  | rest => .error (.missing rest.isEmpty [bracket.name])

/-- Reads by a rule, and returns what it writes instead of writing it. -/
def captured (rule : Rule α) : Rule (α × List TokenTree) := fun reading =>
  match rule { reading with written := [] } with
  | .error fault => .error fault
  | .ok (result, after) => .ok ((result, after.written), { after with written := reading.written })

/-- Reads by a rule, but writes the trees that it reads as they are. -/
def verbatim (rule : Rule α) : Rule α := fun reading =>
  match rule reading with
  | .error fault => .error fault
  | .ok (result, after) =>
    let trees := reading.rest.take (reading.rest.length - after.rest.length)
    .ok (result, { after with written := reading.written ++ trees })

/-- Writes trees that have not been read, or not just now. -/
def write (trees : List TokenTree) : Rule Unit :=
  modify fun reading => { reading with written := reading.written ++ trees }

/-- Repeats a step as long as it asks for more, but not more than `count` times. -/
def repeatAtMost : Nat → Rule Bool → Rule Unit
  | 0, _ => pure ()
  | count + 1, step => do if ← step then repeatAtMost count step

/-- Repeats a step as long as it asks for more.  A step that does reads something. -/
def repeated (step : Rule Bool) : Rule Unit := do
  repeatAtMost ((← ahead).length + 1) step

/-- Reads items with marks between them to the end; the marks may also stand last. -/
def separated (symbols : String) (item : Rule Unit) : Rule Unit :=
  repeated do
    if ← isAtEnd then return false
    item
    if ← isAtEnd then return false
    marks symbols
    return true

end Rule
end Plugboard.Declaration
