import Plugboard.Declaration.Grammar.Path
/-!
# Bounds and parameters

A bound is a lifetime, a trait, or a list of what a type captures.  A trait may take its
arguments between parentheses, with a result behind an arrow, and may be asked for with
all lifetimes that a list of parameters names.
-/

namespace Plugboard.Declaration

/-- What a generic parameter stands for. -/
inductive ParameterKind where
  | lifetime
  | type
  | constant
  deriving DecidableEq, Repr

/-- A generic parameter, each part as it is written. -/
structure Parameter where
  attributes : List TokenTree
  kind : ParameterKind
  name : List TokenTree
  /-- The bounds, or the type of a constant. -/
  requirement : List TokenTree
  /-- What the parameter is if nothing is given for it. -/
  fallback : List TokenTree
  deriving Repr

namespace Parameter

/-- The parameter with its requirement.  No colon stands before no bounds. -/
def declared (parameter : Parameter) : List TokenTree :=
  parameter.attributes ++ (if parameter.kind = .constant then [.word "const"] else []) ++
    parameter.name ++
    (if parameter.requirement.isEmpty then [] else .lone ':' :: parameter.requirement)

def trees (parameter : Parameter) : List TokenTree :=
  parameter.declared ++
    (if parameter.fallback.isEmpty then [] else .lone '=' :: parameter.fallback)

end Parameter

namespace Grammar

open Rule

/-- Lifetimes with plus signs between them, as long as nothing ends them. -/
def lifetimesUpTo (ends : List TokenTree → Bool) : Rule Unit :=
  repeated do
    if ends (← ahead) then return false
    lifetime
    marks? "+"

/-- What ends the bounds of a parameter. -/
def endsBounds (trees : List TokenTree) : Bool :=
  trees.isEmpty || startsWithMarks "," trees || startsWithMarks ">" trees

/-- A type behind an equals sign, or nothing. -/
def fallbackType (g : Grammar) : Rule (List TokenTree) := do
  if (← captured (marks? "=")).1 then return (← captured g.fullType).2 else return []

/-- A constant behind an equals sign, or nothing. -/
def fallbackConstant (g : Grammar) : Rule (List TokenTree) := do
  if (← captured (marks? "=")).1 then
    let rule := do if startsWithName (← ahead) then take 1 else g.constant
    return (← captured rule).2
  else return []

/-- A parameter, returned and not written. -/
def parameter (g : Grammar) : Rule Parameter := do
  let (_, attributes) ← captured g.attributes
  let here ← ahead
  if startsWithLifetime here then
    let (_, name) ← captured (take 1)
    if (← captured (marks? ":")).1 then
      let (_, bounds) ← captured (lifetimesUpTo endsBounds)
      return ⟨attributes, .lifetime, name, bounds, []⟩
    else return ⟨attributes, .lifetime, name, [], []⟩
  else if startsWithName here then
    let (_, name) ← captured (take 1)
    let requirement ←
      if (← captured (marks? ":")).1 then
        let ends := fun here => endsBounds here || startsWithMarks "=" here
        pure (← captured (g.boundsUpTo ends ⟨false, true⟩)).2
      else pure []
    return ⟨attributes, .type, name, requirement, ← g.fallbackType⟩
  else if startsWithWord "const" here then
    discard (captured (word "const"))
    let (_, name) ← captured name
    discard (captured (marks ":"))
    let (_, requirement) ← captured g.fullType
    return ⟨attributes, .constant, name, requirement, ← g.fallbackConstant⟩
  else missing ["identifier", "lifetime", "`const`"]

/-- Parameters for all of which something holds. -/
def binder (g : Grammar) : Rule Unit := do
  word "for"
  marks "<"
  repeated do
    if startsWithMarks ">" (← ahead) then return false
    write (← g.parameter).trees
    if startsWithMarks ">" (← ahead) then return false
    marks ","
    return true
  marks ">"

/-- Such parameters if there are any, and whether there are. -/
def binder? (g : Grammar) : Rule Bool := do
  if startsWithWord "for" (← ahead) then
    g.binder
    return true
  else return false

/-- The result of a function, if an arrow leads to it. -/
def result (g : Grammar) (allowsPlus : Bool) : Rule Unit := do
  if ← marks? "->" then discard (g.type allowsPlus)

/-- Types between parentheses and a result. -/
def functionArguments (g : Grammar) : Rule Unit := do
  within .round (separated "," g.fullType)
  g.result false

def capturedItem : Rule Bool := do
  let here ← ahead
  if startsWithLifetime here then
    take 1
    return true
  else if startsWithName here || startsWithWord "Self" here then
    take 1
    return false
  else missing ["lifetime", "identifier", quoted ">"]

/-- What a type captures, up to a closing angle bracket. -/
def capturedItems : Nat → Rule (List ListItem)
  | 0 => return []
  | fuel + 1 => do
    if startsWithMarks ">" (← ahead) then return []
    let (isLifetime, trees) ← captured capturedItem
    let here ← ahead
    if startsWithMarks "," here then
      discard (captured (marks ","))
      return ⟨isLifetime, trees, true⟩ :: (← capturedItems fuel)
    else if startsWithMarks ">" here then return [⟨isLifetime, trees, false⟩]
    else missing [quoted ",", quoted ">"]

/-- What a type captures. -/
def capture : Rule Unit := do
  word "use"
  marks "<"
  write (ListItem.list (← capturedItems ((← ahead).length + 1)))
  marks ">"

/-- A trait with what may stand in front of it. -/
def trait (g : Grammar) (allowsConstant : Bool) : Rule Unit := do
  let hasBinder ← g.binder?
  let here ← ahead
  if startsWithGroup .square here then
    within .square (word "const")
    if !allowsConstant then refuse .conditionalConstantMisplaced
  else if startsWithWord "const" here then
    take 1
    if !allowsConstant then refuse .constantMisplaced
  if (← marks? "?") && !hasBinder then discard g.binder?
  let form ← g.path false
  let here ← ahead
  if form.endsPlain then
    if startsWithGroup .round here then g.functionArguments
    else if startsWithMarks "::" here && startsWithGroup .round (here.drop 2) then
      discard (captured (marks "::"))
      g.functionArguments

/-- One bound; the answer is whether it names a trait. -/
def boundBody (g : Grammar) (licence : BoundLicence) : Rule Bool := do
  let here ← ahead
  if startsWithLifetime here then
    take 1
    return false
  else if startsWithWord "use" here then
    capture
    if !licence.captures then refuse .captureMisplaced
    return false
  else
    if startsWithGroup .round here then within .round (g.trait licence.constants)
    else g.trait licence.constants
    return true

/-- More bounds behind plus signs, the last of which may stand last; the answer is
whether any names a trait. -/
def boundList (g : Grammar) (allowsPlus : Bool) (licence : BoundLicence) : Nat → Rule Bool
  | 0 => return false
  | fuel + 1 => do
    let isTrait ← g.bound licence
    if !(allowsPlus && startsWithMarks "+" (← ahead)) then return isTrait
    marks "+"
    let here ← ahead
    if startsWithAnyWord here || startsWithMarks "::" here || startsWithMarks "?" here ||
        startsWithLifetime here || startsWithGroup .round here ||
        (licence.constants && startsWithGroup .square here) then
      return (← g.boundList allowsPlus licence fuel) || isTrait
    else return isTrait

/-- Bounds with plus signs between them; the answer is whether any names a trait. -/
def bounds (g : Grammar) (allowsPlus : Bool) (licence : BoundLicence) : Rule Bool := do
  g.boundList allowsPlus licence ((← ahead).length + 1)

end Grammar
end Plugboard.Declaration
