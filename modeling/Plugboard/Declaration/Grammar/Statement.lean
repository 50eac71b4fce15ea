import Plugboard.Declaration.Grammar.Expression
/-!
# Statements

A block is statements one after the other: bindings of names, declarations, and
expressions.  An expression that does not end with a brace needs a semicolon behind it,
unless it is the last.
-/

namespace Plugboard.Declaration.Grammar

open Rule

/-- What follows a path without arguments, if one stands here. -/
def afterPlainPath? : Nat → List TokenTree → Option (List TokenTree)
  | 0, _ => none
  | fuel + 1, trees =>
    if startsPath trees then
      let rest := trees.drop 1
      if startsWithMarks "::" rest then afterPlainPath? fuel (rest.drop 2) else some rest
    else none

/-- What follows a path without arguments, perhaps with a double colon in front. -/
def pathEnd? (trees : List TokenTree) : Option (List TokenTree) :=
  let names := if startsWithMarks "::" trees then trees.drop 2 else trees
  afterPlainPath? (names.length + 1) names

def startsMacroDeclaration (trees : List TokenTree) : Bool :=
  match pathEnd? trees with
  | some rest =>
    startsWithMarks "!" rest &&
      (startsWithName (rest.drop 1) || startsWithWord "try" (rest.drop 1))
  | none => false

/-- A macro is called here, with braces, and is a statement by itself. -/
def startsMacroStatement (trees : List TokenTree) : Bool :=
  match pathEnd? trees with
  | some rest =>
    startsWithMarks "!" rest && startsWithGroup .curly (rest.drop 1) &&
      !(startsWithMarks "." (rest.drop 2) && !startsWithMarks ".." (rest.drop 2)) &&
      !startsWithMarks "?" (rest.drop 2)
  | none => false

def startsDeclaration (trees : List TokenTree) : Bool :=
  let second := trees.drop 1
  let third := trees.drop 2
  let isWord := fun (word : String) => startsWithWord word trees
  let isSecond := fun (words : List String) => words.any fun word => startsWithWord word second
  ["pub", "extern", "use", "fn", "mod", "type", "struct", "enum", "trait", "impl", "macro"].any
      isWord ||
    (isWord "crate" && !startsWithMarks "::" second) ||
    (isWord "static" && (isSecond ["mut"] || startsWithName second)) ||
    (isWord "const" && !startsWithGroup .curly second && !isSecond ["static", "move"] &&
      !startsWithMarks "|" second &&
      !(isSecond ["async"] &&
        !(["unsafe", "extern", "fn"].any fun word => startsWithWord word third))) ||
    (isWord "unsafe" && !startsWithGroup .curly second) ||
    (isWord "async" && isSecond ["unsafe", "extern", "fn"]) ||
    (isWord "union" && startsWithName second) || (isWord "auto" && isSecond ["trait"]) ||
    (isWord "default" && isSecond ["unsafe", "impl"]) || startsMacroDeclaration trees

/-- The declaration ends with a semicolon even if there are braces in it. -/
def needsSemicolon (trees : List TokenTree) : Bool :=
  let trees :=
    if startsWithWord "pub" trees then
      if startsWithGroup .round (trees.drop 1) then trees.drop 2 else trees.drop 1
    else trees
  (["use", "static", "type"].any fun word => startsWithWord word trees) ||
    (startsWithWord "const" trees &&
      !(["fn", "unsafe", "extern", "async"].any fun word => startsWithWord word (trees.drop 1)))

/-- A declaration, up to its semicolon or its braces. -/
def declaration : Rule Unit := do
  let toSemicolon := needsSemicolon (← ahead)
  repeated do
    let here ← ahead
    if here.isEmpty then missing [quoted ";"]
    take 1
    return !startsWithMarks ";" here && (toSemicolon || !startsWithGroup .curly here)

/-- A name, or several, bound to the value of an expression. -/
def binding (g : Grammar) : Rule Unit := do
  word "let"
  g.pattern
  if ← marks? ":" then g.fullType
  if ← marks? "=" then
    let (_, value) ← captured g.expression
    write value
    if !startsWithGroup .curly value.reverse then
      if ← word? "else" then g.block
  marks ";"

/-- A statement; the answer is whether another one may follow it. -/
def statement (g : Grammar) : Rule Bool := do
  g.attributes
  let here ← ahead
  if startsMacroStatement here then
    plainPath
    marks "!"
    discard callArguments
    discard (marks? ";")
    return true
  else if startsWithWord "let" here then
    g.binding
    return true
  else if startsDeclaration here then
    declaration
    return true
  else
    let form ← g.statementExpression
    return (← marks? ";") || form = .block || form = .call .curly

/-- Statements up to the end. -/
def statementsBody (g : Grammar) : Rule Unit :=
  repeated do
    if ← marks? ";" then return true
    if ← isAtEnd then return false
    let mayGoOn ← g.statement
    if ← isAtEnd then return false
    if !mayGoOn then refuse .unfinishedStatement
    return true

end Plugboard.Declaration.Grammar
