import Plugboard.Text.Inspected
/-!
# Result strategies

A strategy folds the results of the handlers of one dispatch into one value, and may
be satisfied before all of them ran.  Null results never count.
-/

namespace Plugboard

/-- A left fold over the results that are not null. -/
structure Reduction where
  name : String
  seed : Value
  combine : Value → Value → Value

/-- How the results of a dispatch become one value. -/
inductive Strategy where
  | first
  | merge (flatten : Bool)
  | reduce (reduction : Reduction)

namespace Reduction

/-- Adds a number to the sum so far: exactly while both are signed 64-bit integers and
so is their sum, else in floating point.  A sum that is no number any more is null. -/
def addNumbers (sum value : Value) : Value :=
  let floating := Value.ofFloat
    ((sum.asFloat?.getD Float64.zero).add (value.asFloat?.getD Float64.zero))
  match sum.asSigned?, value.asSigned? with
  | some a, some b =>
    match (Number.integer (a + b)).asSigned? with
    | some total => .ofInt total
    | none => floating
  | _, _ => floating

/-- The text that a value adds to a concatenation. -/
def concatText : Value → String
  | .string text => text
  | other => other.text

/-- Empty, zero, false and null values are not true. -/
def truthy : Value → Bool
  | .null => false
  | .bool flag => flag
  | .number n => !n.toFloat.isZero
  | .string text => !text.isEmpty
  | .array items => !items.isEmpty
  | .object members => !members.isEmpty

/-- Keeps the extreme number seen so far; a later one has to be strictly beyond it. -/
def pick (beyond : Float64 → Float64 → Bool) (extreme value : Value) : Value :=
  match value.asFloat?, extreme.asFloat? with
  | none, _ => extreme
  | some _, none => value
  | some candidate, some current => if beyond candidate current then value else extreme

def sum : Reduction :=
  ⟨"sum", .ofInt 0, fun total value =>
    match value with
    | .number _ => addNumbers total value
    | _ => total⟩

def concat : Reduction :=
  ⟨"concat", .string "", fun joined value => .string (concatText joined ++ concatText value)⟩

def all : Reduction :=
  ⟨"all", .bool true, fun holds value => .bool (truthy holds && truthy value)⟩

def any : Reduction :=
  ⟨"any", .bool false, fun holds value => .bool (truthy holds || truthy value)⟩

def count : Reduction :=
  ⟨"count", .ofNat 0, fun total _ => .ofNat (total.asUnsigned?.getD 0 + 1)⟩

def min : Reduction := ⟨"min", .null, pick (fun candidate current => candidate.lt current)⟩
def max : Reduction := ⟨"max", .null, pick (fun candidate current => current.lt candidate)⟩

/-- A reduction with a combiner of the caller's own. -/
def custom (seed : Value) (combine : Value → Value → Value) : Reduction :=
  ⟨"custom", seed, combine⟩

def inspect (reduction : Reduction) : String :=
  Text.inspectRecord "Reduce"
    [("name", Text.inspectString reduction.name), ("seed", reduction.seed.inspect)]

end Reduction

namespace Strategy

/-- Splices the top-level arrays of a list of values. -/
def splice : List Value → List Value
  | [] => []
  | .array items :: rest => items ++ splice rest
  | other :: rest => other :: splice rest

/-- The one value of a list of results. -/
def aggregate (strategy : Strategy) (results : List Value) : Value :=
  let present := results.filter (fun value => !value.isNull)
  match strategy with
  | .first => present.headD .null
  | .merge flatten => .array (if flatten then splice present else present)
  | .reduce reduction => present.foldl reduction.combine reduction.seed

/-- No further result can change the aggregate. -/
def isSatisfiedBy : Strategy → Value → Bool
  | .first, value => !value.isNull
  | _, _ => false

end Strategy

/-- What a dispatch knows of the strategy it is given, which may also be one of the caller's
own: the fold, and the results after which no further handler has to run. -/
structure Aggregation where
  aggregate : List Value → Value
  isSatisfiedBy : Value → Bool

def Strategy.aggregation (strategy : Strategy) : Aggregation :=
  ⟨strategy.aggregate, strategy.isSatisfiedBy⟩

end Plugboard
