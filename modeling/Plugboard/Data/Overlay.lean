import Plugboard.Data.Value
/-!
# Laying values over one another

Where both values are objects their members are united and those under one key laid
over one another; everywhere else the upper value hides the lower one.
-/

namespace Plugboard.Value

mutual
/-- The first value laid over the second. -/
def overlay : (upper lower : Value) → Value
  | .object upper, .object lower => .object (overlayMembers upper lower)
  | upper, _ => upper

def overlayMembers : (upper : List (String × Value)) → (lower : Members) → Members
  | [], lower => lower
  | (key, value) :: rest, lower =>
    let value :=
      match Members.get? key lower with
      | some below => overlay value below
      | none => value
    overlayMembers rest (Members.insert key value lower)
end

/-- Layers from the lowest to the highest, laid over a lowest value. -/
def stacked (lowest : Value) (layers : List Value) : Value :=
  layers.foldl (fun below layer => overlay layer below) lowest

end Plugboard.Value
