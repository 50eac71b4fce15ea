import Plugboard.Declaration.Grammar.Pattern
/-!
# Expressions

An expression is operands with operators between them.  An operand is an atom with
operators in front of it and calls, members and indices behind it; an atom is a literal,
a path, something between brackets, or a form that starts with a word of its own.
-/

namespace Plugboard.Declaration.Grammar

open Rule

/-! ## Operators -/

/-- The operators between two operands, longer ones before their own beginnings. -/
def binaryOperators : List (String × Precedence) :=
  [("+=", .assignment), ("-=", .assignment), ("*=", .assignment), ("/=", .assignment),
   ("%=", .assignment), ("^=", .assignment), ("&=", .assignment), ("|=", .assignment),
   ("<<=", .assignment), (">>=", .assignment), ("&&", .conjunction), ("||", .disjunction),
   ("<<", .shift), (">>", .shift), ("==", .comparison), ("<=", .comparison),
   ("!=", .comparison), (">=", .comparison), ("+", .sum), ("-", .sum), ("*", .product),
   ("/", .product), ("%", .product), ("^", .bitXor), ("&", .bitAnd), ("|", .bitOr),
   ("<", .comparison), (">", .comparison)]

/-- The operator that stands here. -/
def binaryOperator? (trees : List TokenTree) : Option (String × Precedence) :=
  binaryOperators.find? fun operator => startsWithMarks operator.1 trees

def startsAssignment (trees : List TokenTree) : Bool :=
  startsWithMarks "=" trees && !startsWithMarks "=>" trees

/-- How tightly the operator that stands here binds, if there is any. -/
def precedenceAhead (trees : List TokenTree) : Precedence :=
  match binaryOperator? trees with
  | some (_, precedence) => precedence
  | none =>
    if startsAssignment trees then .assignment
    else if startsWithMarks ".." trees then .range
    else if startsWithWord "as" trees then .cast
    else .loosest

/-- The operators behind an operand that bind more tightly than the one before it. -/
def tighterOperators (g : Grammar) (allowsRecord : Bool) (precedence : Precedence) :
    Nat → ExpressionForm → Rule Unit
  | 0, _ => return ()
  | fuel + 1, form => do
    let here ← ahead
    let next := precedenceAhead here
    if precedence.rank < next.rank || (next = precedence && precedence = .assignment) then
      let form ← g.operators allowsRecord next form
      if (← ahead).length < here.length then
        g.tighterOperators allowsRecord precedence fuel form

def rightOperand (g : Grammar) (allowsRecord : Bool) (precedence : Precedence) : Rule Unit := do
  let form ← g.operand allowsRecord
  g.tighterOperators allowsRecord precedence ((← ahead).length + 1) form

def endsRange (allowsRecord : Bool) (trees : List TokenTree) : Bool :=
  trees.isEmpty || (startsWithMarks "." trees && !startsWithMarks ".." trees) ||
    (!allowsRecord && startsWithGroup .curly trees) || startsWithWord "as" trees ||
    [",", ";", "?", "=>", "=", "+", "/", "%", "^", ">", "<=", "!=", "-=", "*=", "&=", "|=",
      "<<="].any fun symbols => startsWithMarks symbols trees

/-- A range behind its start. -/
def rangeEnd (g : Grammar) (allowsRecord : Bool) : Rule Unit := do
  if (← limits) || !endsRange allowsRecord (← ahead) then g.rightOperand allowsRecord .range

/-- Refuses what would belong to a type behind a cast. -/
def endOfCast : Rule Unit := do
  let here ← ahead
  if startsWithMarks "." here && !startsWithMarks ".." here then
    let name := here.drop 1
    if startsWithWord "await" name then refuse (.castFollowedBy "`.await`")
    else if startsWithName name &&
        (startsWithGroup .round (name.drop 1) || startsWithMarks "::" (name.drop 1)) then
      refuse (.castFollowedBy "a method call")
    else refuse (.castFollowedBy "a field access")
  else if startsWithMarks "?" here then refuse (.castFollowedBy "`?`")
  else if startsWithGroup .square here then refuse (.castFollowedBy "indexing")
  else if startsWithGroup .round here then refuse (.castFollowedBy "a function call")

/-- The operators that bind at least as tightly as `weakest`, and their operands, behind
an expression.  A range ends an expression, and comparisons do not follow comparisons. -/
def operatorsFrom (g : Grammar) (allowsRecord : Bool) (weakest : Precedence) :
    Nat → ExpressionForm → Rule ExpressionForm
  | 0, form => return form
  | fuel + 1, form => do
    let here ← ahead
    if form = .range then return form
    match binaryOperator? here with
    | some (operator, precedence) =>
      if precedence.rank < weakest.rank then return form
      if precedence = .comparison && form = .comparison then refuse .chainedComparison
      marks operator
      g.rightOperand allowsRecord precedence
      g.operatorsFrom allowsRecord weakest fuel
        (if precedence = .comparison then .comparison else .other)
    | none =>
      if weakest.rank ≤ Precedence.assignment.rank && startsAssignment here then
        marks "="
        g.rightOperand allowsRecord .assignment
        g.operatorsFrom allowsRecord weakest fuel .other
      else if weakest.rank ≤ Precedence.range.rank && startsWithMarks ".." here then
        g.rangeEnd allowsRecord
        return .range
      else if weakest.rank ≤ Precedence.cast.rank && startsWithWord "as" here then
        word "as"
        g.typeWithoutPlus
        endOfCast
        g.operatorsFrom allowsRecord weakest fuel .other
      else return form

def operatorsBody (g : Grammar) (allowsRecord : Bool) (weakest : Precedence)
    (form : ExpressionForm) : Rule ExpressionForm := do
  g.operatorsFrom allowsRecord weakest ((← ahead).length + 1) form

/-! ## Behind an atom -/

def callOperands (g : Grammar) : Rule Unit := within .round (separated "," g.expression)

/-- A number of the form of a decimal that stands for two positions one after the other;
the answer is whether it ends with a position. -/
def positions? : Rule Bool := do
  match ← ahead with
  | .literal .decimal text :: _ =>
    if !text.toList.all (fun c => c.isDigit || c == '.') then refuse .suffixedIndex
    take 1
    return !text.endsWith "."
  | _ => return false

/-- A member behind a point, with what it is called with. -/
def memberAccess (g : Grammar) : Rule Unit := do
  if ← positions? then return
  if ← word? "await" then return
  let isNamed ← member
  if isNamed && startsWithMarks "::" (← ahead) then
    marks "::"
    angledList g.argument
    g.callOperands
  else if isNamed && startsWithGroup .round (← ahead) then g.callOperands

/-- Calls, members, indices and question marks behind an atom. -/
def trailers (g : Grammar) : Nat → ExpressionForm → Rule ExpressionForm
  | 0, form => return form
  | fuel + 1, form => do
    let here ← ahead
    if startsWithGroup .round here then
      g.callOperands
      g.trailers fuel .other
    else if startsWithMarks "." here && !startsWithMarks ".." here && form != .range then
      marks "."
      g.memberAccess
      g.trailers fuel .other
    else if startsWithGroup .square here then
      within .square g.expression
      g.trailers fuel .other
    else if startsWithMarks "?" here && form != .range then
      marks "?"
      g.trailers fuel .other
    else return form

def withTrailers (g : Grammar) (form : ExpressionForm) : Rule ExpressionForm := do
  g.trailers ((← ahead).length + 1) form

/-! ## Atoms -/

def startsExpression (trees : List TokenTree) : Bool :=
  startsWithAnyWord trees || Bracket.all.any (fun bracket => startsWithGroup bracket trees) ||
    startsWithLiteral trees || startsWithCall trees ||
    (startsWithMarks "-" trees && !startsWithMarks "-=" trees && !startsWithMarks "->" trees) ||
    (startsWithMarks "*" trees && !startsWithMarks "*=" trees) ||
    (startsWithMarks "|" trees && !startsWithMarks "|=" trees) ||
    (startsWithMarks "&" trees && !startsWithMarks "&=" trees) || startsWithMarks ".." trees ||
    (startsWithMarks "<" trees && !startsWithMarks "<=" trees && !startsWithMarks "<<=" trees) ||
    startsWithMarks "::" trees || startsWithLifetime trees || startsWithMarks "#" trees

def fieldValue (g : Grammar) : Rule Unit := do
  g.attributes
  let isNamed ← member
  if !isNamed || startsWithMarks ":" (← ahead) then
    marks ":"
    g.expression

def recordFields (g : Grammar) : Rule Unit :=
  within .curly <| repeated do
    if ← isAtEnd then return false
    if ← marks? ".." then
      if !(← isAtEnd) then g.expression
      return false
    g.fieldValue
    if ← isAtEnd then return false
    marks ","
    return true

/-- A path, a macro call or a record literal. -/
def pathExpression (g : Grammar) (allowsRecord : Bool) : Rule ExpressionForm := do
  let form ← g.anyPath true
  let here ← ahead
  if !form.isQualified && startsWithCall here && form.isPlain then
    marks "!"
    return .call (← callArguments)
  else if allowsRecord && startsWithGroup .curly here then
    g.recordFields
    return .other
  else return .other

/-- Expressions between square brackets, or one and how often it is repeated. -/
def bracketedExpression (g : Grammar) : Rule Unit :=
  within .square do
    if ← isAtEnd then return
    g.expression
    let here ← ahead
    if here.isEmpty then return
    if startsWithMarks "," here then
      marks ","
      separated "," g.expression
    else if startsWithMarks ";" here then
      marks ";"
      g.expression
    else missing [quoted ",", quoted ";"]

def closureArgument (g : Grammar) : Rule Unit := do
  g.attributes
  g.pattern
  if ← marks? ":" then g.fullType

/-- A function without a name. -/
def closure (g : Grammar) (allowsRecord : Bool) : Rule Unit := do
  discard g.binder?
  ["const", "static", "async", "move"].forM fun text => discard (word? text)
  marks "|"
  repeated do
    if startsWithMarks "|" (← ahead) then return false
    g.closureArgument
    if startsWithMarks "|" (← ahead) then return false
    marks ","
    return true
  marks "|"
  if ← marks? "->" then
    g.fullType
    g.block
  else discard (g.expressionBefore allowsRecord)

def startsClosure (trees : List TokenTree) : Bool :=
  let second := trees.drop 1
  startsWithMarks "|" trees || startsWithWord "move" trees || startsWithWord "static" trees ||
    (startsWithWord "for" trees && startsWithMarks "<" second &&
      (startsWithLifetime (trees.drop 2) || startsWithMarks ">" (trees.drop 2))) ||
    (startsWithWord "const" trees && !startsWithGroup .curly second) ||
    (startsWithWord "async" trees && (startsWithMarks "|" second || startsWithWord "move" second))

/-- A condition with a block, and what else is to be done. -/
def conditional (g : Grammar) : Rule Unit :=
  repeated do
    word "if"
    discard (g.expressionBefore false)
    g.block
    if !(← word? "else") then return false
    let here ← ahead
    if startsWithWord "if" here then return true
    else if startsWithGroup .curly here then
      g.block
      return false
    else missing ["`if`", "curly braces"]

def loopOrBlock (g : Grammar) : Rule Unit := do
  if ← word? "while" then
    discard (g.expressionBefore false)
    g.attributedBlock
  else if ← word? "for" then
    g.alternatives
    word "in"
    discard (g.expressionBefore false)
    g.attributedBlock
  else if ← word? "loop" then g.attributedBlock
  else if startsWithGroup .curly (← ahead) then g.attributedBlock
  else missing ["loop or block expression"]

/-- A loop or a block behind its name. -/
def labelled (g : Grammar) : Rule Unit := do
  lifetime
  marks ":"
  g.loopOrBlock

/-- A loop over the values of an expression stands here, and no function for all lifetimes
of a list. -/
def startsLoop (trees : List TokenTree) : Bool :=
  startsWithWord "for" trees &&
    !(startsWithMarks "<" (trees.drop 1) &&
      (startsWithLifetime (trees.drop 2) || startsWithMarks ">" (trees.drop 2)))

/-- Something stands here that ends with a brace and is a statement by itself. -/
def startsBlock (trees : List TokenTree) : Bool :=
  startsLoop trees || startsWithGroup .curly trees || startsWithLifetime trees ||
    (["if", "while", "loop", "match", "unsafe"].any fun word => startsWithWord word trees) ||
    (["try", "const"].any fun word =>
      startsWithWord word trees && startsWithGroup .curly (trees.drop 1))

def matchCase (g : Grammar) : Rule Unit := do
  g.attributes
  g.alternatives
  if ← word? "if" then g.expression
  marks "=>"
  let form ← g.statementExpression
  if form != .block && !(← isAtEnd) then marks "," else discard (marks? ",")

/-- A choice between patterns. -/
def choice (g : Grammar) : Rule Unit := do
  word "match"
  discard (g.expressionBefore false)
  within .curly do
    g.innerAttributes
    repeated do
      if ← isAtEnd then return false
      g.matchCase
      return true

/-- What ends with a brace and is a statement by itself. -/
def blockExpression (g : Grammar) : Rule Unit := do
  let here ← ahead
  if startsWithWord "if" here then g.conditional
  else if startsWithWord "match" here then g.choice
  else if startsWithLifetime here then g.labelled
  else if ["unsafe", "const"].any fun word => startsWithWord word here then
    take 1
    g.attributedBlock
  else if startsWithWord "try" here then
    take 1
    g.block
  else g.loopOrBlock

/-- An expression as a statement or behind the arrow of a case: what ends with a brace
is complete there, unless a member of it is asked for. -/
def statementExpressionBody (g : Grammar) : Rule ExpressionForm := do
  g.attributes
  if startsBlock (← ahead) then
    g.blockExpression
    let here ← ahead
    if (startsWithMarks "." here && !startsWithMarks ".." here) || startsWithMarks "?" here then
      g.operators true .loosest (← g.withTrailers .block)
    else return .block
  else g.expressionBefore true

/-- The end of a function or of a loop, with what it leaves behind. -/
def departure (g : Grammar) (allowsRecord : Bool) : Rule Unit := do
  if ← word? "break" then
    let here ← ahead
    if startsWithLifetime here && startsWithMarks ":" (here.drop 1) then
      g.expression
      refuse .parenthesesRequired
    discard lifetime?
    let here ← ahead
    if startsExpression here && (allowsRecord || !startsWithGroup .curly here) then g.expression
  else if ← word? "continue" then discard lifetime?
  else if ← word? "become" then g.expression
  else
    take 1
    if startsExpression (← ahead) then g.expression

def comparisonWithPattern (g : Grammar) (allowsRecord : Bool) : Rule Unit := do
  word "let"
  g.alternatives
  marks "="
  discard (g.operators allowsRecord .comparison (← g.operand allowsRecord))

def startsPathExpression (trees : List TokenTree) : Bool :=
  let second := trees.drop 1
  startsPath trees || startsWithMarks "::" trees || startsWithMarks "<" trees ||
    (startsWithWord "try" trees && (startsWithMarks "!" second || startsWithMarks "::" second))

/-- An operand without operators. -/
def atom (g : Grammar) (allowsRecord : Bool) : Rule ExpressionForm := do
  let here ← ahead
  let second := here.drop 1
  if startsWithLiteral here then literal
  else if startsWithWord "async" here && (startsWithGroup .curly second ||
      (startsWithWord "move" second && startsWithGroup .curly (here.drop 2))) then
    take (if startsWithGroup .curly second then 1 else 2)
    g.block
  else if startsWithWord "try" here && startsWithGroup .curly second then
    g.blockExpression
    return .block
  else if startsClosure here then g.closure allowsRecord
  else if startsWithWord "builtin" here && startsWithMarks "#" second then
    take 2
    name
    if startsWithGroup .round (← ahead) then take 1 else missing [Bracket.round.name]
  else if startsPathExpression here then return ← g.pathExpression allowsRecord
  else if startsWithGroup .round here then within .round (separated "," g.expression)
  else if ["break", "continue", "return", "become", "yield"].any fun word =>
      startsWithWord word here then
    g.departure allowsRecord
  else if startsWithGroup .square here then g.bracketedExpression
  else if startsWithWord "let" here then g.comparisonWithPattern allowsRecord
  else if startsBlock here then
    g.blockExpression
    return .block
  else if startsWithMarks ".." here then
    g.rangeEnd allowsRecord
    return .range
  else if startsWithWord "_" here then take 1
  else missing ["an expression"]
  return .other

/-- An operand with the operators in front of and behind it. -/
def operandBody (g : Grammar) (allowsRecord : Bool) : Rule ExpressionForm := do
  let hasAttributes := startsWithMarks "#" (← ahead)
  g.attributes
  let here ← ahead
  if startsWithMarks "&" here then
    marks "&"
    let here ← ahead
    let second := here.drop 1
    if startsWithWord "raw" here &&
        (startsWithWord "mut" second || startsWithWord "const" second) then
      take 2
    else discard (word? "mut")
    discard (g.operand allowsRecord)
    return .other
  else if ["*", "!", "-"].any fun symbols => startsWithMarks symbols here then
    take 1
    discard (g.operand allowsRecord)
    return .other
  else
    let form ← g.withTrailers (← g.atom allowsRecord)
    if hasAttributes && form = .range then refuse .attributeOnRange
    return form

end Plugboard.Declaration.Grammar
