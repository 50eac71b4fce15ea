/-!
# Priorities

Handlers with a smaller priority run earlier.  These are the usual ones.
-/

namespace Plugboard

namespace Priority

def critical : Int := 0
def high : Int := 50
def normal : Int := 100
def low : Int := 150
def background : Int := 200

/-- The usual priorities, the earliest first. -/
def all : List Int := [critical, high, normal, low, background]

end Priority
end Plugboard
