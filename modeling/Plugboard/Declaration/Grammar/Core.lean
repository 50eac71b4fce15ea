import Plugboard.Declaration.Grammar.Rule
/-!
# The core of the grammar

Types, bounds, expressions, patterns and statements contain one another.  The rules for
each are written over a `Grammar`, which holds the rules for all of them; what a rule
reads says enough of its form to decide what may follow.
-/

namespace Plugboard.Declaration

/-- What a type is, as far as anything hangs on it. -/
inductive TypeForm where
  /-- A path of one name with or without arguments. -/
  | name
  /-- Another path. -/
  | path
  /-- The objects of one trait, without the word that says so. -/
  | bound
  | other
  deriving DecidableEq, Repr

/-- What an expression is, as far as anything hangs on it. -/
inductive ExpressionForm where
  | range
  /-- A comparison of two operands. -/
  | comparison
  /-- Something between braces, which is a statement by itself. -/
  | block
  | call (bracket : Bracket)
  | other
  deriving DecidableEq, Repr

/-- How tightly operators bind, the loosest first. -/
inductive Precedence where
  | loosest
  | assignment
  | range
  | disjunction
  | conjunction
  | binding
  | comparison
  | bitOr
  | bitXor
  | bitAnd
  | shift
  | sum
  | product
  | cast
  deriving DecidableEq, Repr

/-- Larger for operators that bind more tightly. -/
def Precedence.rank : Precedence → Nat
  | .loosest => 0
  | .assignment => 1
  | .range => 2
  | .disjunction => 3
  | .conjunction => 4
  | .binding => 5
  | .comparison => 6
  | .bitOr => 7
  | .bitXor => 8
  | .bitAnd => 9
  | .shift => 10
  | .sum => 11
  | .product => 12
  | .cast => 13

/-- What may stand among the bounds of a type. -/
structure BoundLicence where
  captures : Bool
  constants : Bool

/-- The rules that the rules for one kind of text use for what it contains. -/
structure Grammar where
  /-- A type; without the licence for it, a plus sign behind it is left alone. -/
  type : (allowsPlus : Bool) → Rule TypeForm
  /-- A bound; the answer is whether it names a trait. -/
  bound : BoundLicence → Rule Bool
  /-- An operand with the operators in front of and behind it. -/
  operand : (allowsRecord : Bool) → Rule ExpressionForm
  /-- The operators that bind at least so tightly, and their operands, behind an
  expression. -/
  operators : (allowsRecord : Bool) → Precedence → ExpressionForm → Rule ExpressionForm
  /-- An expression where what ends with a brace is complete. -/
  statementExpression : Rule ExpressionForm
  /-- What stands between the braces of a block. -/
  statements : Rule Unit
  /-- A pattern without alternatives. -/
  pattern : Rule Unit

namespace Grammar

open Rule

/-- An expression.  Where the braces of a block have to follow, no record literal may
stand. -/
def expressionBefore (g : Grammar) (allowsRecord : Bool) : Rule ExpressionForm := do
  g.operators allowsRecord .loosest (← g.operand allowsRecord)

def expression (g : Grammar) : Rule Unit := discard (g.expressionBefore true)

def fullType (g : Grammar) : Rule Unit := discard (g.type true)

def typeWithoutPlus (g : Grammar) : Rule Unit := discard (g.type false)

/-! ## Names with colons -/

/-- Names joined by double colons, none of which has arguments. -/
def plainPath : Rule Unit := do
  discard (marks? "::")
  let startsSegment := fun trees => startsWithName trees || startsWithPlace trees
  if !startsSegment (← ahead) then name
  repeated do
    if !startsSegment (← ahead) then missing ["path segment after `::`"]
    take 1
    marks? "::"

/-! ## Attributes -/

/-- What stands between the brackets of an attribute. -/
def attributeContent (g : Grammar) : Rule Unit := do
  if !(← word? "unsafe") then plainPath
  let here ← ahead
  if Bracket.all.any fun bracket => startsWithGroup bracket here then take 1
  else if startsWithMarks "=" here && !startsWithMarks "==" here && !startsWithMarks "=>" here then
    marks "="
    let here ← ahead
    if startsWithMarks "#" here && startsWithGroup .square (here.drop 1) then
      refuse .attributeInAttribute
    g.expression

/-- Attributes of what follows. -/
def attributes (g : Grammar) : Rule Unit :=
  repeated do
    if ← marks? "#" then
      within .square g.attributeContent
      return true
    else return false

/-- Attributes of what contains them. -/
def innerAttributes (g : Grammar) : Rule Unit :=
  repeated do
    let here ← ahead
    if startsWithMarks "#" here && startsWithMarks "!" (here.drop 1) then
      take 2
      within .square g.attributeContent
      return true
    else return false

def block (g : Grammar) : Rule Unit := within .curly g.statements

/-- A block between braces that may start with attributes of its own. -/
def attributedBlock (g : Grammar) : Rule Unit :=
  within .curly do
    g.innerAttributes
    g.statements

/-! ## Lists in which lifetimes come first -/

/-- An item of a list, with whether a comma follows it. -/
structure ListItem where
  isLifetime : Bool
  trees : List TokenTree
  hasComma : Bool
  deriving Repr

namespace ListItem

/-- The items in the order in which they are written. -/
def inOrder (items : List ListItem) : List ListItem :=
  items.filter (·.isLifetime) ++ items.filter (!·.isLifetime)

/-- The items one after the other, with a comma before one whose predecessor has none. -/
def spelled (followsComma : Bool) : List ListItem → List TokenTree
  | [] => []
  | item :: rest =>
    (if followsComma then [] else [.comma]) ++ item.trees ++
      (if item.hasComma then [.comma] else []) ++ spelled item.hasComma rest

/-- A list as it is written: lifetimes before all others, whatever their order was. -/
def list (items : List ListItem) : List TokenTree := spelled true (inOrder items)

end ListItem

/-- Reads items with commas between them up to a closing angle bracket, where `item`
says if it has read a lifetime. -/
def itemsUpToAngle (item : Rule Bool) : Nat → Rule (List ListItem)
  | 0 => return []
  | fuel + 1 => do
    if startsWithMarks ">" (← ahead) then return []
    let (isLifetime, trees) ← captured item
    if startsWithMarks ">" (← ahead) then return [⟨isLifetime, trees, false⟩]
    discard (captured (marks ","))
    return ⟨isLifetime, trees, true⟩ :: (← itemsUpToAngle item fuel)

/-- Reads a list between angle brackets and writes its lifetimes first. -/
def angledList (item : Rule Bool) : Rule Unit := do
  marks "<"
  write (ListItem.list (← itemsUpToAngle item ((← ahead).length + 1)))
  marks ">"

end Grammar
end Plugboard.Declaration
