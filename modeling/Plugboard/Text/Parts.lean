/-!
# Parts of a text

A mark cuts a text into parts.  A text without the mark is one part, and parts may be empty.
-/

namespace Plugboard.Text

/-- The parts of a text; `seen` holds the characters of the current part, last first. -/
def partsFrom (mark : Char) (seen : List Char) : List Char → List String
  | [] => [String.ofList seen.reverse]
  | c :: rest =>
    if c = mark then String.ofList seen.reverse :: partsFrom mark [] rest
    else partsFrom mark (c :: seen) rest

def parts (mark : Char) (text : String) : List String := partsFrom mark [] text.toList

end Plugboard.Text
