/-!
# Tokens of a declaration

Paths, generics and bounds are read and repeated token by token, so blanks and comments
between tokens do not count.  What stands between two brackets is one token tree.
-/

namespace Plugboard

/-- Brackets that have to be balanced in all of a text. -/
inductive Bracket where
  | round
  | square
  | curly
  deriving DecidableEq, Repr

namespace Bracket

def opening : Bracket → Char
  | .round => '('
  | .square => '['
  | .curly => '\x7b'

def closing : Bracket → Char
  | .round => ')'
  | .square => ']'
  | .curly => '\x7d'

def all : List Bracket := [.round, .square, .curly]

/-- What a pair of them is called. -/
def name : Bracket → String
  | .round => "parentheses"
  | .square => "square brackets"
  | .curly => "curly braces"

end Bracket

/-- What a literal denotes, as far as anything hangs on it. -/
inductive LiteralKind where
  /-- Text, not bytes. -/
  | text
  | integer
  /-- A number with a point or an exponent. -/
  | decimal
  | other
  deriving DecidableEq, Repr

/-- A token, or the tokens between two brackets. -/
inductive TokenTree where
  /-- A name or a reserved word. -/
  | word (text : String)
  | lifetime (text : String)
  | literal (kind : LiteralKind) (text : String)
  /-- A single mark; it is joined to the next token if that is a mark without a blank
  in between. -/
  | mark (symbol : Char) (isJoined : Bool)
  | group (bracket : Bracket) (content : List TokenTree)
  deriving Repr, Inhabited

namespace TokenTree

mutual
/-- How many tokens there are in a tree, a pair of brackets counted once. -/
def size : TokenTree → Nat
  | .group _ content => sizeOfAll content + 1
  | _ => 1

def sizeOfAll : List TokenTree → Nat
  | [] => 0
  | tree :: rest => size tree + sizeOfAll rest
end

/-- A mark that is not joined to what follows. -/
def lone (symbol : Char) : TokenTree := .mark symbol false

def comma : TokenTree := lone ','

/-- A path that starts outside of everything, or what is added to a path. -/
def path (names : List String) : List TokenTree :=
  names.flatMap fun name => [.mark ':' true, lone ':', .word name]

end TokenTree
end Plugboard
