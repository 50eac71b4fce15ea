import Plugboard.Declaration.Grammar.Statement
/-!
# The whole grammar

The rules of the grammar of some depth use those of the grammar one less deep.  Every
rule that is used so reads something before it is used again, up to a few steps, so the
depth never runs out if it is a few times the number of tokens.
-/

namespace Plugboard.Declaration.Grammar

/-- The grammar without any depth refuses everything. -/
def empty : Grammar :=
  let refused {α : Type} : Rule α := throw .unreadable
  { type := fun _ => refused, bound := fun _ => refused, operand := fun _ => refused
    operators := fun _ _ _ => refused, statementExpression := refused, statements := refused
    pattern := refused }

/-- The grammar for texts in which the rules are used in one another so many times. -/
def ofDepth : Nat → Grammar
  | 0 => empty
  | depth + 1 =>
    let g := ofDepth depth
    { type := g.typeBody, bound := g.boundBody, operand := g.operandBody
      operators := g.operatorsBody, statementExpression := g.statementExpressionBody
      statements := g.statementsBody, pattern := g.patternBody }

def forSize (size : Nat) : Grammar := ofDepth (4 * size + 8)

def read {α : Type} (rule : Grammar → Rule α) (trees : List TokenTree) :
    Except PathFault (α × List TokenTree) :=
  match rule (forSize (TokenTree.sizeOfAll trees)) ⟨trees, [], none⟩ with
  | .error fault => .error fault
  | .ok (result, after) =>
    match after.surplus, after.rest with
    | some bracket, _ => .error (.surplus bracket)
    | none, _ :: _ => .error (.surplus none)
    | none, [] => .ok (result, after.written)

end Plugboard.Declaration.Grammar
