import Plugboard.Declaration.Grammar.Core
/-!
# Paths

A path is names joined by double colons.  A name may carry arguments between angle
brackets: lifetimes, types, constants, and names that are set equal to a type or
constant or have bounds of their own.
-/

namespace Plugboard.Declaration.Grammar

open Rule

/-- What a path is, as far as anything hangs on it. -/
structure PathForm where
  /-- One name without colons in front of it. -/
  isName : Bool
  /-- No name has arguments. -/
  isPlain : Bool
  /-- The last name has no arguments. -/
  endsPlain : Bool
  /-- The path starts from a type. -/
  isQualified : Bool
  deriving DecidableEq, Repr

/-- A constant that stands as an argument. -/
def constant (g : Grammar) : Rule Unit := do
  if startsWithLiteral (← ahead) then literal else g.attributedBlock

def startsWithConstant (trees : List TokenTree) : Bool :=
  startsWithLiteral trees || startsWithGroup .curly trees

/-- Bounds with plus signs between them, as long as nothing ends them. -/
def boundsUpTo (g : Grammar) (ends : List TokenTree → Bool) (licence : BoundLicence) :
    Rule Unit :=
  repeated do
    if ends (← ahead) then return false
    discard (g.bound licence)
    marks? "+"

/-- An argument; the answer is whether it is a lifetime. -/
def argument (g : Grammar) : Rule Bool := do
  let here ← ahead
  if startsWithLifetime here && !startsWithMarks "+" (here.drop 1) then
    take 1
    return true
  if startsWithConstant here then
    g.constant
    return false
  if (← g.type true) = .name then
    if ← marks? "=" then
      if startsWithConstant (← ahead) then g.constant else g.fullType
    else if ← marks? ":" then
      g.boundsUpTo (fun here => startsWithMarks "," here || startsWithMarks ">" here)
        ⟨false, true⟩
  return false

/-- Arguments between angle brackets, perhaps with a double colon in front. -/
def arguments (g : Grammar) : Rule Unit := do
  discard (marks? "::")
  angledList g.argument

/-- A name with its arguments, if it has any.  In an expression they need a double colon
in front. -/
def segment (g : Grammar) (inExpression : Bool) : Rule Bool := do
  let here ← ahead
  if ["super", "self", "crate", "try"].any fun word => startsWithWord word here then
    take 1
    return false
  if startsWithWord "Self" here then take 1 else name
  let here ← ahead
  if (!inExpression && startsWithMarks "<" here && !startsWithMarks "<=" here) ||
      (startsWithMarks "::" here && startsWithMarks "<" (here.drop 2)) then
    g.arguments
    return true
  else return false

/-- More names behind a first one, as long as `goesOn` finds a double colon that belongs
to them. -/
def segments (g : Grammar) (inExpression : Bool) (goesOn : List TokenTree → Bool) :
    Nat → PathForm → Rule PathForm
  | 0, form => return form
  | fuel + 1, form => do
    if goesOn (← ahead) then
      marks "::"
      let hasArguments ← g.segment inExpression
      g.segments inExpression goesOn fuel
        { form with
          isName := false, isPlain := form.isPlain && !hasArguments, endsPlain := !hasArguments }
    else return form

/-- The double colon belongs to the path unless a parenthesis follows it. -/
def pathGoesOn (trees : List TokenTree) : Bool :=
  startsWithMarks "::" trees && !startsWithGroup .round (trees.drop 2)

/-- A path that starts from a name. -/
def path (g : Grammar) (inExpression : Bool) : Rule PathForm := do
  let hasColons ← marks? "::"
  let hasArguments ← g.segment inExpression
  g.segments inExpression pathGoesOn ((← ahead).length + 1)
    ⟨!hasColons, !hasArguments, !hasArguments, false⟩

/-- A path that starts from a type, perhaps seen as one of its traits. -/
def qualifiedPath (g : Grammar) (inExpression : Bool) : Rule PathForm := do
  marks "<"
  g.fullType
  if ← word? "as" then discard (g.path false)
  marks ">"
  marks "::"
  let hasArguments ← g.segment inExpression
  g.segments inExpression (startsWithMarks "::") ((← ahead).length + 1)
    ⟨false, !hasArguments, !hasArguments, true⟩

/-- A path that starts from a name or from a type. -/
def anyPath (g : Grammar) (inExpression : Bool) : Rule PathForm := do
  if startsWithMarks "<" (← ahead) then g.qualifiedPath inExpression else g.path inExpression

/-- The text of a macro call behind its path. -/
def callArguments : Rule Bracket := do
  match ← ahead with
  | .group bracket _ :: _ =>
    take 1
    return bracket
  | _ => missing ["delimiter"]

/-- A call sign stands here, and no sign of inequality. -/
def startsWithCall (trees : List TokenTree) : Bool :=
  startsWithMarks "!" trees && !startsWithMarks "!=" trees

end Plugboard.Declaration.Grammar
