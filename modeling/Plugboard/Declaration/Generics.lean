import Plugboard.Declaration.Grammar.Whole
import Plugboard.Declaration.TokenText
/-!
# Generic parameters of a declaration

An implementation for a generic type repeats its parameters twice: with their bounds
behind the word that opens the implementation, and bare behind the name of the type.
Defaults appear in neither place, and lifetimes come before all other parameters.
-/

namespace Plugboard.Declaration

/-- A parameter of a declaration, with whether a comma follows it. -/
structure ListedParameter where
  parameter : Parameter
  hasComma : Bool
  deriving Repr

/-- The item that a parameter is in a list of some of its parts. -/
def ListedParameter.item (listed : ListedParameter) (part : Parameter → List TokenTree) :
    Grammar.ListItem :=
  ⟨listed.parameter.kind = .lifetime, part listed.parameter, listed.hasComma⟩

namespace Grammar

open Rule

/-- Parameters up to a closing angle bracket. -/
def listedParameters (g : Grammar) : Nat → Rule (List ListedParameter)
  | 0 => return []
  | fuel + 1 => do
    if startsWithMarks ">" (← ahead) then return []
    let parameter ← g.parameter
    if startsWithMarks ">" (← ahead) then return [⟨parameter, false⟩]
    marks ","
    return ⟨parameter, true⟩ :: (← g.listedParameters fuel)

def declaredParameters (g : Grammar) : Rule (List ListedParameter) := do
  if !(← marks? "<") then return []
  let parameters ← g.listedParameters ((← ahead).length + 1)
  marks ">"
  return parameters

/-- What ends the bounds of a declaration. -/
def endsPredicate (trees : List TokenTree) : Bool :=
  trees.isEmpty || startsWithGroup .curly trees || startsWithMarks "," trees ||
    startsWithMarks ";" trees || (startsWithMarks ":" trees && !startsWithMarks "::" trees) ||
    startsWithMarks "=" trees

/-- What a declaration asks of one lifetime or type. -/
def predicate (g : Grammar) : Rule Unit := do
  let here ← ahead
  if startsWithLifetime here && startsWithMarks ":" (here.drop 1) then
    take 2
    lifetimesUpTo endsPredicate
  else
    discard g.binder?
    g.fullType
    marks ":"
    g.boundsUpTo endsPredicate ⟨false, true⟩

/-- All that a declaration asks for; the answer is whether it asks for anything. -/
def predicates (g : Grammar) : Rule Bool := do
  word "where"
  if endsPredicate (← ahead) then return false
  repeated do
    if endsPredicate (← ahead) then return false
    g.predicate
    marks? ","
  return true

end Grammar

def parameters (generics : String) : List ListedParameter :=
  match Grammar.read Grammar.declaredParameters ((treesOfText? generics).getD []) with
  | .ok (parameters, _) => parameters
  | .error _ => []

/-- Some part of each parameter between angle brackets, lifetimes first; nothing if there
are no parameters. -/
def angled (part : Parameter → List TokenTree) (parameters : List ListedParameter) :
    List TokenTree :=
  if parameters.isEmpty then []
  else .lone '<' :: Grammar.ListItem.list (parameters.map (·.item part)) ++ [.lone '>']

/-- The bounds of a declaration, if it has any. -/
def readBounds (bounds : String) : Option (List TokenTree) :=
  match Grammar.read Grammar.predicates ((treesOfText? bounds).getD []) with
  | .ok (true, trees) => some trees
  | .ok (false, _) | .error _ => none

end Plugboard.Declaration
