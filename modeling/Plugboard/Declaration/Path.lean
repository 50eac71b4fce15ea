import Plugboard.Declaration.Grammar.Whole
import Plugboard.Declaration.TokenText
/-!
# The path of the library

Generated code reaches the library through a path, which an attribute gives as text.
-/

namespace Plugboard.Declaration

/-- The path that a text spells. -/
def readPath (text : String) : Except PathFault (List TokenTree) :=
  match treesOfText? text with
  | none => .error .unreadable
  | some trees => (Grammar.read (fun g => g.path false) trees).map Prod.snd

end Plugboard.Declaration
