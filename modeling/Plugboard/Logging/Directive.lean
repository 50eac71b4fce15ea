import Plugboard.Data.NumberText
import Plugboard.LogEvent
import Plugboard.Text.Alphanumeric
import Plugboard.Text.Blank
import Plugboard.Text.Bytes
import Plugboard.Text.Pattern
/-!
# Log directives

A directive gives a verbosity to the events and spans it applies to.  Written
`target[span{field=value}]=verbosity`, it may leave out any part: a word alone is a
verbosity for everything, or else a target that is let through in full.
-/

namespace Plugboard

/-- A demand on one of the fields of an event or span. -/
structure FieldFilter where
  /-- There has to be a field of this name. -/
  name : String
  /-- Its value has to match, too. -/
  hasValue : Bool
  deriving DecidableEq, Repr

/-- What a directive says about the events and spans it applies to. -/
structure LogDirective where
  /-- The targets it applies to start like this; without it, it applies to all. -/
  target : Option String
  /-- It applies to what happens in spans of this name. -/
  span : Option String
  fields : List FieldFilter
  /-- The largest rank of a level that is let through; 0 lets nothing through. -/
  verbosity : Nat
  deriving DecidableEq, Repr

namespace LogDirective

/-- A verbosity for everything. -/
def ofVerbosity (verbosity : Nat) : LogDirective := ⟨none, none, [], verbosity⟩

/-! ## Verbosities -/

/-- Everything is let through. -/
def fullVerbosity : Nat := Level.trace.rank

/-- The words for verbosities, in lower case. -/
def verbosities : List (String × Nat) :=
  [("off", 0), ("error", Level.error.rank), ("warn", Level.warn.rank),
   ("info", Level.info.rank), ("debug", Level.debug.rank), ("trace", Level.trace.rank)]

/-- The rank that digits spell, a plus sign before them allowed. -/
def rank? (word : List Char) : Option Nat :=
  let unsigned :=
    match word with
    | '+' :: rest => rest
    | _ => word
  ((Numeral.digits? unsigned).map Numeral.decimal).filter (· ≤ fullVerbosity)

/-- The verbosity of a word in any case, or of a rank. -/
def verbosity? (word : List Char) : Option Nat :=
  rank? word <|> verbosities.lookup (String.ofList (word.map Char.toLower))

/-! ## Reading -/

/-- The part of a directive that is being read, with the place where it starts. -/
inductive Part where
  | start
  /-- A verbosity or a target. -/
  | word (first : Nat)
  | span (first : Nat)
  | field (first : Nat)
  | afterField
  | afterSpan
  | verbosity (first : Nat)
  deriving DecidableEq, Repr

/-- What has been read of a directive. -/
structure Draft where
  part : Part
  target : Option String
  span : Option String
  fields : List FieldFilter

/-- The words for numbers without digits, in lower case. -/
def numberWords : List String := ["inf", "infinity", "nan"]

/-- A value may be asked for that is a number, in any spelling, or matches a pattern. -/
def isFieldValue (text : List Char) : Bool :=
  let word := String.ofList ((Numeral.signed text).2.map Char.toLower)
  (Numeral.ofWord? text).isSome || numberWords.contains word ||
    Text.Pattern.isWellFormed text

/-- The name of a field; behind an equals sign it also asks for a value. -/
def fieldFilter? (text : List Char) : Option FieldFilter :=
  let name := text.takeWhile (· != '=')
  match text.drop name.length with
  | [] => some ⟨String.ofList name, false⟩
  | _ :: rest =>
    if isFieldValue (rest.takeWhile (· != '=')) then some ⟨String.ofList name, true⟩ else none

/-- A directive may start with letters, numbers and a few marks. -/
def isFirstOfWord (c : Char) : Bool :=
  Text.isAlphanumeric c || c == '-' || c == ':' || c == '_'

/-- Takes one character, which stands at a place, into a draft.  Parts are cut out of
`text`. -/
def Draft.take (text : List Char) (draft : Draft) (place : Nat) (c : Char) : Option Draft :=
  let since := fun (first : Nat) => Text.betweenBytes first place text
  match draft.part with
  | .start =>
    if c = '[' then some { draft with part := .span (place + 1) }
    else if isFirstOfWord c then some { draft with part := .word place }
    else none
  | .word first =>
    if c = '=' then
      some { draft with
        part := .verbosity (place + 1), target := some (String.ofList (since first)) }
    else if c = '[' then
      some { draft with
        part := .span (place + 1), target := some (String.ofList (since first)) }
    else some draft
  | .span first =>
    if c = ']' then
      some { draft with part := .afterSpan, span := some (String.ofList (since first)) }
    else if c = '\x7b' then
      let name := since first
      some { draft with
        part := .field (place + 1)
        span := if name.isEmpty then none else some (String.ofList name) }
    else some draft
  | .field first =>
    if c = '\x7d' then
      let text := since first
      if text.isEmpty then none
      else
        (fieldFilter? text).map fun field =>
          { draft with part := .afterField, fields := draft.fields ++ [field] }
    else some draft
  | .afterField => if c = ']' then some { draft with part := .afterSpan } else none
  | .afterSpan => if c = '=' then some { draft with part := .verbosity (place + 1) } else none
  | .verbosity _ => some draft

/-- Takes characters into a draft, the first of which stands at a place. -/
def Draft.takeAll (text : List Char) (draft : Draft) (place : Nat) : List Char → Option Draft
  | [] => some draft
  | c :: rest =>
    match draft.take text place c with
    | some draft => draft.takeAll text (place + c.utf8Size) rest
    | none => none

/-- The directive of a draft at the end of its text. -/
def Draft.finish (text : List Char) (draft : Draft) : Option LogDirective :=
  let directive := fun (verbosity : Nat) =>
    LogDirective.mk draft.target draft.span draft.fields verbosity
  match draft.part with
  | .word first =>
    let word := Text.beyondBytes first text
    match verbosity? word with
    | some verbosity => some (directive verbosity)
    | none => some { directive fullVerbosity with target := some (String.ofList word) }
  | .verbosity first =>
    let word := Text.beyondBytes first text
    if word.isEmpty then some (directive fullVerbosity) else (verbosity? word).map directive
  | .afterSpan => some (directive fullVerbosity)
  | .start | .span _ | .field _ | .afterField => none

/-- Reads a directive.  Blanks at the ends are passed over in finding its parts, but the
parts are cut out of the text with its blanks: places count from its very start. -/
def parse? (text : String) : Option LogDirective :=
  match Draft.takeAll text.toList ⟨.start, none, none, []⟩ 0 (Text.trimmed text).toList with
  | some draft => draft.finish text.toList
  | none => none

/-! ## What a directive applies to -/

/-- The target of an event or span is one that the directive applies to. -/
def coversTarget (directive : LogDirective) (target : String) : Bool :=
  match directive.target with
  | none => true
  | some beginning => beginning.toList.isPrefixOf target.toList

/-- There are fields of all names that the directive asks for. -/
def coversFields (directive : LogDirective) (fields : List String) : Bool :=
  directive.fields.all fun filter => fields.contains filter.name

def coversEvent (directive : LogDirective) (target : String) (fields : List String) : Bool :=
  directive.coversTarget target && directive.coversFields fields

/-- The directive applies to a span by its name and fields. -/
def coversSpan (directive : LogDirective) (target name : String) (fields : List String) :
    Bool :=
  directive.coversTarget target && directive.span.all (· == name) &&
    directive.coversFields fields

/-- The directive is about spans: about their names or their fields. -/
def asksForSpans (directive : LogDirective) : Bool :=
  directive.span.isSome || !directive.fields.isEmpty

def asksForValues (directive : LogDirective) : Bool := directive.fields.any (·.hasValue)

/-- The directive also speaks of events outside spans. -/
def speaksOfEvents (directive : LogDirective) : Bool :=
  directive.span.isNone && !directive.asksForValues

/-- The more specific of two directives is the one with the longer target, then the one
with more fields; which of two others comes first is of no importance. -/
def specificity (left right : LogDirective) : Ordering :=
  let names := fun (directive : LogDirective) => directive.fields.map (·.name)
  (compare (left.target.map String.utf8ByteSize) (right.target.map String.utf8ByteSize))
    |>.then (compare left.fields.length right.fields.length)
    |>.then (compare left.target right.target)
    |>.then (compare (names left) (names right))

end LogDirective
end Plugboard
