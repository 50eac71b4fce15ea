import Plugboard.Declaration.Grammar.Bound
/-!
# Types

A type is a path, a reference or pointer, a tuple, a slice or array, a function, the
objects of a trait, some type with a trait, a macro call, or one of two marks.
-/

namespace Plugboard.Declaration.Grammar

open Rule

/-- How the things that a type may start with are called. -/
def typeStarts : List String :=
  ["`for`", "parentheses", "`fn`", "`unsafe`", "`extern`", "identifier", "`::`", "`<`", "`dyn`",
   "square brackets", "`*`", "`&`", "`!`", "`impl`", "`_`", "lifetime"]

/-- How the things that may follow a binder are called. -/
def boundTypeStarts : List String :=
  ["identifier", "`fn`", "`unsafe`", "`extern`", "`super`", "`self`", "`Self`", "`crate`"]

def objectBounds (g : Grammar) (allowsPlus : Bool) : Rule Unit := do
  if !(← g.bounds allowsPlus ⟨false, false⟩) then refuse .objectWithoutTrait

/-- More bounds behind a first one, each with a plus sign in front. -/
def furtherBounds (g : Grammar) : Rule Unit :=
  repeated do
    if ← marks? "+" then
      discard (g.bound ⟨false, false⟩)
      return true
    else return false

/-- What stands between parentheses, as far as anything hangs on it. -/
inductive EnclosedForm where
  | complete
  /-- A trait that may be left out, which makes a bound. -/
  | optionalTrait
  /-- One type, which may be the first of several bounds. -/
  | type (form : TypeForm)
  deriving DecidableEq, Repr

/-- What stands between the parentheses of a type. -/
def enclosed (g : Grammar) : Rule EnclosedForm := do
  let here ← ahead
  if here.isEmpty then return .complete
  if startsWithLifetime here then
    g.objectBounds true
    return .complete
  if startsWithMarks "?" here then
    g.trait false
    return .optionalTrait
  let form ← g.type true
  if startsWithMarks "," (← ahead) then
    marks ","
    separated "," g.fullType
    return .complete
  else return .type form

/-- A type between parentheses, or bounds of which the first stands between them. -/
def parenthesized (g : Grammar) (allowsPlus : Bool) : Rule TypeForm := do
  match ← within .round g.enclosed with
  | .complete => return .other
  | .optionalTrait =>
    let isAlone := !startsWithMarks "+" (← ahead)
    g.furtherBounds
    return if isAlone then .bound else .other
  | .type form =>
    if allowsPlus && form != .other && startsWithMarks "+" (← ahead) then g.furtherBounds
    return .other

/-- One argument of a function.  The first may be the object that it belongs to. -/
def functionArgument (g : Grammar) (isFirst : Bool) : Rule Unit := do
  let here ← ahead
  let self := fun trees => isFirst && startsWithWord "self" trees
  if startsWithWord "mut" here && self (here.drop 1) then
    take 2
    if startsWithMarks ":" (← ahead) && !startsWithMarks "::" (← ahead) then
      marks ":"
      verbatim g.fullType
  else
    let isNamed := startsWithName here || startsWithWord "_" here || self here
    if isNamed && startsWithMarks ":" (here.drop 1) && !startsWithMarks "::" (here.drop 1) then
      take 2
    g.fullType

/-- The arguments of a function stop being counted here. -/
def startsVariadic (trees : List TokenTree) : Bool :=
  startsWithMarks "..." trees ||
    ((startsWithName trees || startsWithWord "_" trees) && startsWithMarks ":" (trees.drop 1) &&
      startsWithMarks "..." (trees.drop 2))

def functionArgumentList (g : Grammar) : Nat → Bool → Rule Unit
  | 0, _ => return ()
  | fuel + 1, isFirst => do
    if ← isAtEnd then return
    g.attributes
    let here ← ahead
    if startsVariadic here then
      if !startsWithMarks "..." here then take 2
      marks "..."
      discard (marks? ",")
    else
      g.functionArgument isFirst
      if ← isAtEnd then return
      marks ","
      g.functionArgumentList fuel false

def functionType (g : Grammar) : Rule Unit := do
  discard (word? "unsafe")
  if ← word? "extern" then
    match ← ahead with
    | .literal .text _ :: _ => take 1
    | _ => pure ()
  word "fn"
  within .round do g.functionArgumentList ((← ahead).length + 1) true
  g.result false

/-- A path, a macro call, or bounds of which the first is a path. -/
def pathType (g : Grammar) (allowsPlus hasBinder : Bool) : Rule TypeForm := do
  let form ← g.anyPath false
  if form.isQualified then return .other
  if startsWithCall (← ahead) && form.isPlain then
    marks "!"
    discard callArguments
    return .other
  if hasBinder || (allowsPlus && startsWithMarks "+" (← ahead)) then
    let isAlone := !startsWithMarks "+" (← ahead)
    if allowsPlus then
      repeated do
        if !(← marks? "+") then return false
        let here ← ahead
        if startsWithAnyWord here || startsWithMarks "::" here || startsWithMarks "?" here ||
            startsWithLifetime here || startsWithGroup .round here then
          discard (g.bound ⟨false, false⟩)
          return true
        else return false
    return if isAlone || !allowsPlus then .bound else .other
  return if form.isName then .name else .path

/-- A slice or an array. -/
def bracketedType (g : Grammar) : Rule Unit :=
  within .square do
    g.fullType
    if ← marks? ";" then g.expression

def pointerType (g : Grammar) : Rule Unit := do
  marks "*"
  if !(← word? "const") then
    if !(← word? "mut") then missing ["`const`", "`mut`"]
  g.typeWithoutPlus

def referenceType (g : Grammar) : Rule Unit := do
  marks "&"
  discard lifetime?
  discard (word? "mut")
  g.typeWithoutPlus

/-- The objects of traits, with the word that says so. -/
def objectType (g : Grammar) (allowsPlus : Bool) : Rule Unit := do
  word "dyn"
  if ← marks? "*" then verbatim (g.objectBounds allowsPlus) else g.objectBounds allowsPlus

/-- Some type with traits. -/
def choiceType (g : Grammar) (allowsPlus : Bool) : Rule Unit := do
  word "impl"
  if !(← g.bounds allowsPlus ⟨true, true⟩) then refuse .choiceWithoutTrait

def startsFunction (trees : List TokenTree) : Bool :=
  ["fn", "unsafe", "extern"].any fun word => startsWithWord word trees

def startsPath (trees : List TokenTree) : Bool := startsWithName trees || startsWithPlace trees

def typeBody (g : Grammar) (allowsPlus : Bool) : Rule TypeForm := do
  let hasBinder ← g.binder?
  let here ← ahead
  if hasBinder && !startsPath here && !startsFunction here then missing boundTypeStarts
  if startsWithGroup .round here then g.parenthesized allowsPlus
  else if startsFunction here then
    g.functionType
    return .other
  else if startsPath here || startsWithMarks "::" here || startsWithMarks "<" here then
    g.pathType allowsPlus hasBinder
  else
    if startsWithWord "dyn" here then g.objectType allowsPlus
    else if startsWithGroup .square here then g.bracketedType
    else if startsWithMarks "*" here then g.pointerType
    else if startsWithMarks "&" here then g.referenceType
    else if startsWithMarks "!" here && !startsWithMarks "=" here then marks "!"
    else if startsWithWord "impl" here then g.choiceType allowsPlus
    else if startsWithWord "_" here then word "_"
    else if startsWithLifetime here then g.objectBounds true
    else missing typeStarts
    return .other

end Plugboard.Declaration.Grammar
