import Plugboard.Text.Lowercase
/-!
# Profiles

A profile names the surroundings that an application runs in.
-/

namespace Plugboard

/-- The surroundings of an application. -/
inductive Profile where
  | development
  | production
  | custom (name : String)
  deriving DecidableEq, Repr

namespace Profile

instance : Inhabited Profile := ⟨.development⟩

/-- The profile of a name, in any case and with the usual short forms. -/
def ofName (name : String) : Profile :=
  match Text.lowercase name with
  | "production" | "prod" => .production
  | "development" | "dev" => .development
  | other => .custom other

def name : Profile → String
  | .development => "development"
  | .production => "production"
  | .custom name => name

end Profile
end Plugboard
