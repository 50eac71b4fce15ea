import Plugboard.Proofs.Settings.Precedence

/-!
# What the environment decides when its settings are not read

A loader that reads no settings from the environment may still be told by it which profile is in
force, and so which files to read.  That is all: the same settings, or the same error, come out of
every environment once the profile is called by name.  Whether they come out anyway depends on
whether it makes a difference which profile is called.
-/

namespace Plugboard

namespace Environment

/-- The environments differ at most in variables with the common start of their names. -/
def AlikeElsewhere (left right : List (String × String)) : Prop :=
  ∀ name, ¬ namePrefix.toList <+: name.toList → get? name left = get? name right

/-- The profile that is in force unless another is called. -/
def profileName (environment : List (String × String)) : String :=
  (get? profileVariable environment).getD (default : Profile).name

def naming (name : String) (environment : List (String × String)) : List (String × String) :=
  (profileVariable, name) :: environment

@[simp]
theorem profileName_naming (name : String) (environment : List (String × String)) :
    profileName (naming name environment) = name := by
  simp [profileName, naming, get?]

/-- Naming a profile changes no variable without the common start. -/
theorem get?_naming {variableName : String} (hother : ¬ namePrefix.toList <+: variableName.toList)
    (name : String) (environment : List (String × String)) :
    get? variableName (naming name environment) = get? variableName environment := by
  have hne : variableName ≠ profileVariable := by
    rintro rfl
    exact hother (by decide)
  rw [get?, naming, List.lookup_cons, beq_eq_false_iff_ne.mpr hne]
  rfl

theorem alikeElsewhere_naming (first second : String) (environment : List (String × String)) :
    AlikeElsewhere (naming first environment) (naming second environment) := by
  intro name hother
  rw [get?_naming hother, get?_naming hother]

end Environment

theorem Profile.ofName_name_default : Profile.ofName (default : Profile).name = default := by
  decide +kernel

def Surroundings.within (around : Surroundings) (environment : List (String × String)) :
    Surroundings :=
  { around with environment }

namespace SettingsLoader

/-- The loader with a profile called by name, unless one was called before. -/
def calling (loader : SettingsLoader) (name : String) : SettingsLoader :=
  { loader with profileName := some (loader.profileName.getD name) }

variable {loader : SettingsLoader} {around : Surroundings}
  {environment other : List (String × String)}

/-! ## What depends on the environment -/

/-- Naming a profile in the environment is as good as calling it. -/
theorem profile_calling (environment other : List (String × String)) :
    (loader.calling (Environment.profileName environment)).profile (around.within other) =
      loader.profile (around.within environment) := by
  rw [profile, profile, calling]
  cases hname : loader.profileName with
  | some name => rfl
  | none =>
      simp only [Option.getD_none, Environment.profileName, Surroundings.within]
      cases Environment.get? Environment.profileVariable environment with
      | some name => rfl
      | none => exact Profile.ofName_name_default

/-- Nothing but the profile in force is taken from the environment to find the files. -/
theorem fileNames_calling (environment other : List (String × String)) :
    (loader.calling (Environment.profileName environment)).fileNames (around.within other) =
      loader.fileNames (around.within environment) := by
  have hfile : (loader.calling (Environment.profileName environment)).file = loader.file := rfl
  rw [fileNames, fileNames, hfile]
  cases loader.file with
  | none => rw [profile_calling]; rfl
  | some path => rfl

theorem fileNames_eq_of_used_eq
    (hused : loader.used (around.within environment) = loader.used (around.within other)) :
    loader.fileNames (around.within environment) = loader.fileNames (around.within other) := by
  have hfound (environment : List (String × String)) (hfile : loader.file = none) :
      loader.fileNames (around.within environment) =
        .ok (loader.used (around.within environment)) := by
    rw [fileNames, hfile, used, consulted, hfile, foundFiles_eq]
  cases hfile : loader.file with
  | none => rw [hfound environment hfile, hfound other hfile, hused]
  | some path => rw [fileNames, fileNames, hfile]; rfl

/-- The files found and the overrides are all that a loader that reads no settings from the
environment puts together. -/
theorem load_eq_of_fileNames_eq {left right : SettingsLoader}
    (hleft : left.readsEnvironment = false) (hright : right.readsEnvironment = false)
    (hoverrides : left.overrides = right.overrides)
    (hnames : left.fileNames (around.within environment) = right.fileNames (around.within other)) :
    left.load (around.within environment) = right.load (around.within other) := by
  have hlayers : left.layers (around.within environment) = right.layers (around.within other) := by
    rw [layers, layers, hnames, hleft, hright, hoverrides]
    rfl
  rw [load, load, hlayers]

/-- A loader that reads no environment loads the same under any, once its profile is called. -/
theorem load_calling (hsilent : loader.readsEnvironment = false)
    (environment other : List (String × String)) :
    (loader.calling (Environment.profileName environment)).load (around.within other) =
      loader.load (around.within environment) :=
  load_eq_of_fileNames_eq hsilent hsilent rfl (fileNames_calling environment other)

/-- The environment has no say where a profile was called, or one file is to be read. -/
theorem fileNames_eq_of_settled (hsettled : loader.profileName.isSome ∨ loader.file.isSome)
    (environment other : List (String × String)) :
    loader.fileNames (around.within environment) = loader.fileNames (around.within other) := by
  rw [fileNames, fileNames]
  cases hfile : loader.file with
  | some path => rfl
  | none =>
      rw [hfile] at hsettled
      obtain ⟨name, hname⟩ :=
        Option.isSome_iff_exists.mp (hsettled.resolve_right Bool.false_ne_true)
      rw [profile, profile, hname]
      rfl

/-! ## What is loaded -/

/-- The environment is heard only as far as it names the profile.  It is not heard at all by a
loader whose profile was called or that reads one file only, nor where the same files are used.
Loading is independent of it just if it makes no difference which profile is called. -/
structure HearsOnlyProfile (loader : SettingsLoader) (around : Surroundings) : Prop where
  named : ∀ environment other,
    (loader.calling (Environment.profileName environment)).load (around.within other) =
      loader.load (around.within environment)
  settled : loader.profileName.isSome ∨ loader.file.isSome → ∀ environment other,
    loader.load (around.within environment) = loader.load (around.within other)
  same_files : ∀ environment other,
    loader.used (around.within environment) = loader.used (around.within other) →
      loader.load (around.within environment) = loader.load (around.within other)
  independent_iff :
    (∀ environment other, Environment.AlikeElsewhere environment other →
        loader.load (around.within environment) = loader.load (around.within other)) ↔
      ∀ first second, (loader.calling first).load around = (loader.calling second).load around

/-- Without its settings, the environment only names a profile. -/
theorem environment_only_names_profile (hsilent : loader.readsEnvironment = false)
    (around : Surroundings) : loader.HearsOnlyProfile around where
  named := load_calling hsilent
  settled hsettled environment other :=
    load_eq_of_fileNames_eq hsilent hsilent rfl (fileNames_eq_of_settled hsettled environment other)
  same_files environment other hused :=
    load_eq_of_fileNames_eq hsilent hsilent rfl (fileNames_eq_of_used_eq hused)
  independent_iff := by
    constructor
    · intro halike first second
      have hnamed (name : String) : (loader.calling name).load around =
          loader.load (around.within (Environment.naming name around.environment)) := by
        rw [← load_calling hsilent _ around.environment, Environment.profileName_naming]
        rfl
      rw [hnamed, hnamed]
      exact halike _ _ (Environment.alikeElsewhere_naming first second around.environment)
    · intro hcalled environment other _
      rw [← load_calling hsilent environment around.environment,
        ← load_calling hsilent other around.environment]
      exact hcalled _ _

namespace Sample

def production : Surroundings where
  files :=
    { files := [("cwd/junction.production.toml", "[queue]\ncapacity = 3\n")], directories := [] }
  environment := []
  workingDirectory := "cwd"
  userDirectory := none

def silent : SettingsLoader := { standard with readsEnvironment := false }

theorem load_silent : silent.load (production.within []) = .ok (settings ⟨"default", 1024⟩) :=
  load_of_toOption (by decide +kernel)

theorem load_silent_production :
    silent.load (production.within [("JUNCTION_PROFILE", "production")]) =
      .ok (settings ⟨"default", 3⟩) :=
  load_of_toOption (by decide +kernel)

end Sample

/-- A loader that would load something else if another profile were called. -/
theorem environment_only_names_profile_of_sample :
    Sample.silent.readsEnvironment = false ∧ Sample.silent.HearsOnlyProfile Sample.production :=
  ⟨rfl, environment_only_names_profile rfl Sample.production⟩

/-- A variable picks the profile of a loader that reads no settings from the environment. -/
theorem profile_variable_is_heard :
    Sample.silent.readsEnvironment = false ∧
      Environment.AlikeElsewhere [] [("JUNCTION_PROFILE", "production")] ∧
      Sample.silent.load (Sample.production.within []) ≠
        Sample.silent.load (Sample.production.within [("JUNCTION_PROFILE", "production")]) := by
  refine ⟨rfl, fun name hother => (Environment.get?_naming hother "production" []).symm, ?_⟩
  rw [Sample.load_silent, Sample.load_silent_production]
  intro hsame
  have hcapacity : (1024 : UInt64) = 3 :=
    congrArg (fun settings => settings.queue.capacity) (Except.ok.inj hsame)
  exact absurd hcapacity (by decide)

end SettingsLoader
end Plugboard
