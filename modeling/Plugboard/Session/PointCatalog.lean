import Plugboard.Point
/-!
# The points of sessions

The kinds of points that sessions work with.  Two of them share a name.
-/

namespace Plugboard

namespace PointKind

def saving : PointKind := ⟨"saving", "record.saving", .writable⟩
def saved : PointKind := ⟨"saved", "record.saved", .hidden⟩
def cancelling : PointKind := ⟨"cancelling", "order.cancelling", .writable⟩
def namesake : PointKind := ⟨"alias", "record.saved", .hidden⟩
def bare : PointKind := ⟨"bare", "oracle_driver::points::Bare", .hidden⟩
def sealed : PointKind := ⟨"sealed", "record.sealed", .readOnly⟩

/-- What points and handlers are called that were given no name. -/
def defaultNames : List String :=
  ["oracle_driver::points::Bare", "oracle_driver::points::Saved",
   "oracle_driver::pure::Unnamed"]

def catalog : List PointKind := [saving, saved, cancelling, namesake, bare, sealed]

def ofTag? (tag : String) : Option PointKind := catalog.find? (fun kind => kind.tag == tag)

end PointKind
end Plugboard
