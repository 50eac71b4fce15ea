/-!
# Places counted in bytes

A place in a text may be given by the number of bytes before it.  A place inside a
character stands for the place before that character.
-/

namespace Plugboard.Text

/-- The longest start of a text of at most so many bytes. -/
def withinBytes (bytes : Nat) : List Char → List Char
  | [] => []
  | c :: rest => if c.utf8Size ≤ bytes then c :: withinBytes (bytes - c.utf8Size) rest else []

/-- What comes after the longest start of a text of at most so many bytes. -/
def beyondBytes (bytes : Nat) : List Char → List Char
  | [] => []
  | c :: rest => if c.utf8Size ≤ bytes then beyondBytes (bytes - c.utf8Size) rest else c :: rest

/-- The part of a text between two places. -/
def betweenBytes (first last : Nat) (text : List Char) : List Char :=
  withinBytes (last - first) (beyondBytes first text)

/-- The two parts at a place make up the text. -/
theorem withinBytes_append_beyondBytes (bytes : Nat) (text : List Char) :
    withinBytes bytes text ++ beyondBytes bytes text = text := by
  induction text generalizing bytes with
  | nil => rfl
  | cons c rest ih =>
    simp only [withinBytes, beyondBytes]
    split
    · simp [ih]
    · rfl

end Plugboard.Text
