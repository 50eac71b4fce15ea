import Plugboard.Logging.Directive
import Plugboard.Text.Parts
/-!
# Log filters

A filter is made of directives.  Of the rules that apply to an event the most specific
one decides; of two with one target and the same fields the later counts.  Directives
about spans are kept apart: a span that one of them applies to is always let through,
as long as its level is of interest to any directive at all.
-/

namespace Plugboard

/-- Directives, put to use. -/
structure LogFilter where
  /-- The directives that decide by target and fields, the most specific first. -/
  rules : List LogDirective
  /-- The directives about spans. -/
  spanRules : List LogDirective
  /-- The largest verbosity that was ever asked for. -/
  ceiling : Nat
  deriving DecidableEq, Repr

namespace LogFilter

def empty : LogFilter := ⟨[], [], 0⟩

instance : Inhabited LogFilter := ⟨empty⟩

/-- Puts a directive in its place, instead of one that is equal to it in order. -/
def insertRule (directive : LogDirective) : List LogDirective → List LogDirective
  | [] => [directive]
  | other :: rest =>
    match directive.specificity other with
    | .gt => directive :: other :: rest
    | .eq => directive :: rest
    | .lt => other :: insertRule directive rest

/-- Adds a directive that decides by target and fields. -/
def addRule (filter : LogFilter) (directive : LogDirective) : LogFilter :=
  { filter with
    rules := insertRule directive filter.rules
    ceiling := max filter.ceiling directive.verbosity }

/-- Adds a directive about spans. -/
def addSpanRule (filter : LogFilter) (directive : LogDirective) : LogFilter :=
  { filter with
    spanRules := filter.spanRules ++ [directive]
    ceiling := max filter.ceiling directive.verbosity }

/-- Adds one directive: about spans only if it cannot be applied to events. -/
def add (filter : LogFilter) (directive : LogDirective) : LogFilter :=
  if directive.speaksOfEvents then filter.addRule directive else filter.addSpanRule directive

/-- The filter of several directives given at once.  One about fields alone is both
applied to events and about spans. -/
def ofDirectives (directives : List LogDirective) : LogFilter :=
  let spanRules := directives.filter (·.asksForSpans)
  let rules := directives.filter (!·.asksForSpans) ++ spanRules.filter (·.speaksOfEvents)
  spanRules.foldl addSpanRule (rules.foldl addRule empty)

/-- The verbosity of the most specific of the rules that apply lets a level through. -/
def decides (level : Level) : Option LogDirective → Bool
  | some directive => decide (level.rank ≤ directive.verbosity)
  | none => false

/-- An event with fields is let through for a target and level. -/
def enables (filter : LogFilter) (target : String) (level : Level) (fields : List String) :
    Bool :=
  decides level (filter.rules.find? fun rule => rule.coversEvent target fields)

/-- Spans of a level are of interest.  The values of fields become known only in a span,
so a directive that asks for them makes all spans interesting. -/
def watches (filter : LogFilter) (level : Level) : Bool :=
  decide (level.rank ≤ filter.ceiling) || filter.spanRules.any (·.asksForValues)

def enablesSpan (filter : LogFilter) (target name : String) (level : Level)
    (fields : List String) : Bool :=
  filter.watches level &&
    (filter.spanRules.any (·.coversSpan target name fields) ||
      decides level (filter.rules.find? (·.coversTarget target)))

/-- The pieces of a list of directives. -/
def pieces (text : String) : List String := (Text.parts ',' text).filter (fun piece => piece != "")

/-- Reads directives separated by commas; none at all let nothing through. -/
def parse? (text : String) : Option LogFilter :=
  ((pieces text).mapM LogDirective.parse?).map ofDirectives

end LogFilter
end Plugboard
