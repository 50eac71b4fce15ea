import Plugboard.Declaration.Token
/-!
# Declarations of points

A declaration describes a type that is to be a point: its shape and the attributes
written on the type and on its fields.  Attributes under the path `extension_point`
belong to this library; all others belong to somebody else and are passed over.
-/

namespace Plugboard

/-- A literal after the equals sign of an attribute. -/
inductive AttributeLiteral where
  | text (value : String)
  /-- A number or a truth value, which no attribute of this library takes. -/
  | other
  deriving DecidableEq, Repr

/-- One entry between the parentheses of an attribute: `key` or `key = literal`. -/
structure AttributeItem where
  key : String
  literal : Option AttributeLiteral
  deriving DecidableEq, Repr

/-- `#[path(item, …)]`. -/
structure Attribute where
  path : String
  items : List AttributeItem
  deriving DecidableEq, Repr

/-- The path of the attributes of this library. -/
def Attribute.ownPath : String := "extension_point"

/-- The entries that this library has to understand, in source order. -/
def Attribute.ownItems (attributes : List Attribute) : List AttributeItem :=
  (attributes.filter (fun candidate => candidate.path = ownPath)).flatMap Attribute.items

/-- A field of a type; a field by position has no name. -/
structure DeclaredField where
  name : Option String
  attributes : List Attribute
  deriving DecidableEq, Repr

/-- The shape of a declared type. -/
inductive DeclaredShape where
  /-- One collection of fields, by name or by position. -/
  | record (fields : List DeclaredField)
  /-- Several alternatives with fields of their own. -/
  | variants (alternatives : List (List DeclaredField))
  | union (fields : List DeclaredField)
  deriving DecidableEq, Repr

/-- A type that is to be a point.  Generics and bounds are kept as written. -/
structure Declaration where
  typeName : String
  attributes : List Attribute
  shape : DeclaredShape
  generics : String
  bounds : String
  deriving DecidableEq, Repr

/-- What the grammar of paths refuses although each token could stand where it does. -/
inductive Refusal where
  /-- A type that stands for the objects of several traits names only lifetimes. -/
  | objectWithoutTrait
  /-- A type that stands for some type with several traits names only lifetimes. -/
  | choiceWithoutTrait
  | captureMisplaced
  | constantMisplaced
  | conditionalConstantMisplaced
  /-- Two comparisons in a row without parentheses. -/
  | chainedComparison
  /-- A cast without parentheses before something that belongs to the name before it. -/
  | castFollowedBy (what : String)
  | parenthesesRequired
  | attributeOnRange
  | attributeInAttribute
  | suffixedIndex
  /-- A statement ends without the mark for its end. -/
  | unfinishedStatement
  deriving DecidableEq, Repr

/-- What is wrong with the path of the library. -/
inductive PathFault where
  /-- The text does not fall into tokens. -/
  | unreadable
  /-- None of several things that are wanted is there, perhaps because the text, or what
  stands between two brackets, ends. -/
  | missing (atEnd : Bool) (wanted : List String)
  /-- A reserved word stands where a name has to. -/
  | keyword (word : String)
  | refused (reason : Refusal)
  /-- Something follows the path, or what has to stand between two brackets. -/
  | surplus (bracket : Option Bracket)
  deriving DecidableEq, Repr

/-- Why no implementation is derived. -/
inductive DeclarationError where
  | unknownOption
  | equalsExpected
  | textExpected
  | badPath (fault : PathFault)
  | blankName
  | unknownMark
  | markWithLiteral
  | secondMark
  | markOutsideRecord
  | union
  deriving DecidableEq, Repr

def Refusal.message : Refusal → String
  | .objectWithoutTrait => "at least one trait is required for an object type"
  | .choiceWithoutTrait => "at least one trait must be specified"
  | .captureMisplaced => "`use<...>` precise capturing syntax is not allowed here"
  | .constantMisplaced => "`const` is not allowed here"
  | .conditionalConstantMisplaced => "`[const]` is not allowed here"
  | .chainedComparison => "comparison operators cannot be chained"
  | .castFollowedBy what => "casts cannot be followed by " ++ what
  | .parenthesesRequired => "parentheses required"
  | .attributeOnRange => "attributes are not allowed on range expressions starting with `..`"
  | .attributeInAttribute => "unexpected attribute inside of attribute"
  | .suffixedIndex => "expected unsuffixed integer"
  | .unfinishedStatement => "unexpected token, expected `;`"

def PathFault.wantedText : List String → String
  | [] => ""
  | [only] => "expected " ++ only
  | [first, second] => "expected " ++ first ++ " or " ++ second
  | all => "expected one of: " ++ String.intercalate ", " all

def PathFault.message : PathFault → String
  | .unreadable => "cannot parse string into token stream"
  | .missing atEnd wanted =>
    (if atEnd then "unexpected end of input, " else "") ++ wantedText wanted
  | .keyword word => "expected identifier, found keyword `" ++ word ++ "`"
  | .refused reason => reason.message
  | .surplus none => "unexpected token"
  | .surplus (some bracket) =>
    "unexpected token, expected `" ++ String.singleton bracket.closing ++ "`"

def DeclarationError.message : DeclarationError → String
  | .unknownOption => "unknown extension_point attribute, expected `name` or `crate`"
  | .equalsExpected => "expected `=`"
  | .textExpected => "expected string literal"
  | .badPath fault => fault.message
  | .blankName => "extension point name must not be empty"
  | .unknownMark => "unknown field attribute, expected `interruptible`"
  | .markWithLiteral => "expected `,`"
  | .secondMark => "only one field may be marked #[extension_point(interruptible)]"
  | .markOutsideRecord =>
    "#[extension_point(interruptible)] is only supported on struct fields"
  | .union => "ExtensionPoint cannot be derived for unions"

end Plugboard
