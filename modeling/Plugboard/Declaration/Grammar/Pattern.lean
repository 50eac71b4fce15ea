import Plugboard.Declaration.Grammar.TypeRule
/-!
# Patterns

A pattern is what a value is taken apart by: a name, a constant or a range of them, or
the parts of a value, with alternatives between bars.
-/

namespace Plugboard.Declaration.Grammar

open Rule

/-- A bar between alternatives stands here, and no other operator. -/
def startsWithBar (trees : List TokenTree) : Bool :=
  startsWithMarks "|" trees && !startsWithMarks "||" trees && !startsWithMarks "|=" trees

/-- A pattern with alternatives, perhaps with a bar in front of the first. -/
def alternatives (g : Grammar) : Rule Unit := do
  discard (marks? "|")
  g.pattern
  repeated do
    if startsWithBar (← ahead) then
      marks "|"
      g.pattern
      return true
    else return false

/-- The name or position of a part of a value; the answer is whether it is a name. -/
def member : Rule Bool := do
  match ← ahead with
  | .literal .integer text :: _ =>
    if text.toList.any Char.isAlpha then refuse .suffixedIndex
    take 1
    return false
  | here =>
    if startsWithName here then
      take 1
      return true
    else missing ["identifier", "integer"]

/-- The marks between the ends of a range; the answer is whether its end belongs to it. -/
def limits : Rule Bool := do
  let here ← ahead
  if startsWithMarks "..=" here then
    take 3
    return true
  else if startsWithMarks ".." here && !startsWithMarks "..." here then
    take 2
    return false
  else missing [if startsWithMarks ".." here then "`..=`" else "`..`"]

/-- One end of a range, unless the range has none; the answer is whether it has. -/
def rangeBound (g : Grammar) : Rule Bool := do
  let here ← ahead
  if here.isEmpty || startsWithMarks "|" here || startsWithMarks "=" here ||
      (startsWithMarks ":" here && !startsWithMarks "::" here) || startsWithMarks "," here ||
      startsWithMarks ";" here || startsWithWord "if" here then
    return false
  if startsWithLiteral here then literal
  else if startsPath here || startsWithMarks "::" here || startsWithMarks "<" here then
    discard (g.anyPath true)
  else if startsWithWord "const" here then
    take 1
    g.attributedBlock
  else
    missing ["literal", "identifier", "`::`", "`<`", "`self`", "`Self`", "`super`", "`crate`",
      "`const`"]
  return true

def rangeRest (g : Grammar) : Rule Unit := do
  if startsWithMarks "..." (← ahead) then marks "..."
  else if (← limits) && !(← g.rangeBound) then missing ["range upper bound"]
  else discard g.rangeBound

def fieldPattern (g : Grammar) : Rule Unit := do
  let isBoxed ← word? "box"
  let isReferred ← word? "ref"
  let isChanged ← word? "mut"
  if isBoxed || isReferred || isChanged then name
  else
    let isNamed ← member
    if !isNamed || startsWithMarks ":" (← ahead) then
      marks ":"
      g.alternatives

def fieldPatterns (g : Grammar) : Rule Unit :=
  within .curly <| repeated do
    if ← isAtEnd then return false
    g.attributes
    if ← marks? ".." then return false
    g.fieldPattern
    if ← isAtEnd then return false
    marks ","
    return true

/-- A path, with the parts of a value of that name, or a macro call. -/
def pathPattern (g : Grammar) : Rule Unit := do
  let form ← g.anyPath true
  let here ← ahead
  if !form.isQualified && startsWithCall here && form.isPlain then
    marks "!"
    discard callArguments
  else if startsWithGroup .curly here then g.fieldPatterns
  else if startsWithGroup .round here then within .round (separated "," g.alternatives)
  else if startsWithMarks ".." here then g.rangeRest

/-- A name that is bound to what it stands for. -/
def namePattern (g : Grammar) : Rule Unit := do
  discard (word? "ref")
  discard (word? "mut")
  if !(← word? "self") then name
  if ← marks? "@" then g.pattern

/-- How the things that a pattern may start with are called. -/
def patternStarts : List String :=
  ["identifier", "`::`", "`<`", "`_`", "literal", "`const`", "`ref`", "`mut`", "`&`",
   "parentheses", "square brackets", "`..`"]

/-- What follows a name makes it the start of a path. -/
def continuesPath (trees : List TokenTree) : Bool :=
  startsWithMarks "::" trees || startsWithMarks "!" trees || startsWithGroup .curly trees ||
    startsWithGroup .round trees || startsWithMarks ".." trees

def patternBody (g : Grammar) : Rule Unit := do
  let here ← ahead
  if (startsWithName here && continuesPath (here.drop 1)) ||
      (startsWithWord "self" here && startsWithMarks "::" (here.drop 1)) ||
      startsWithMarks "::" here || startsWithMarks "<" here || startsWithWord "Self" here ||
      startsWithWord "super" here || startsWithWord "crate" here then
    g.pathPattern
  else if startsWithWord "_" here then take 1
  else if startsWithWord "box" here then
    take 1
    g.pattern
  else if startsWithMarks "-" here || startsWithLiteral here || startsWithWord "const" here then
    discard g.rangeBound
    if startsWithMarks ".." (← ahead) then g.rangeRest
  else if startsWithWord "ref" here || startsWithWord "mut" here || startsWithWord "self" here ||
      startsWithName here then
    g.namePattern
  else if startsWithMarks "&" here then
    marks "&"
    discard (word? "mut")
    g.pattern
  else if startsWithGroup .round here then within .round (separated "," g.alternatives)
  else if startsWithGroup .square here then within .square (separated "," g.alternatives)
  else if startsWithMarks ".." here && !startsWithMarks "..." here then
    let isClosed ← limits
    if !(← g.rangeBound) && isClosed then missing ["range upper bound"]
  else missing patternStarts

end Plugboard.Declaration.Grammar
