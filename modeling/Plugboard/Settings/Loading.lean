import Plugboard.Settings.Environment
import Plugboard.Settings.FileTree
import Plugboard.Settings.Profile
import Plugboard.Settings.Validation
import Plugboard.Toml.Parser
/-!
# Loading settings

Settings are laid together from several sources, each over the ones before it: the
defaults, the file of the profile, the main file, the environment, and settings that the
application itself puts on top.  What comes out is read as a whole and has to be valid.
-/

namespace Plugboard

/-- What an application finds around it. -/
structure Surroundings where
  files : FileTree
  /-- The variables of the environment, a later one over an earlier one. -/
  environment : List (String × String)
  workingDirectory : String
  /-- The directory of the user's settings, of all applications. -/
  userDirectory : Option String
  deriving DecidableEq, Repr

/-- Where settings are to come from. -/
structure SettingsLoader where
  /-- The name of the profile; without one the environment names it. -/
  profileName : Option String
  /-- Directories to search instead of the usual ones. -/
  searchDirectories : List String
  /-- The one file to read instead of searching. -/
  file : Option String
  readsEnvironment : Bool
  /-- Settings on top of all others, the later ones higher. -/
  overrides : List Settings
  deriving DecidableEq, Repr

namespace SettingsLoader

/-- Searches the usual directories and reads the environment. -/
def standard : SettingsLoader := ⟨none, [], none, true, []⟩

instance : Inhabited SettingsLoader := ⟨standard⟩

/-- The stem of the names of files with settings. -/
def fileStem : String := "junction"

/-- The extension of files with settings. -/
def fileExtension : String := "toml"

def mainFile (directory : String) : String :=
  FilePath.inside directory (fileStem ++ "." ++ fileExtension)

/-- The file of a profile in a directory. -/
def profileFile (profile : Profile) (directory : String) : String :=
  FilePath.inside directory (fileStem ++ "." ++ profile.name ++ "." ++ fileExtension)

/-- The profile in force. -/
def profile (loader : SettingsLoader) (around : Surroundings) : Profile :=
  match loader.profileName with
  | some name => .ofName name
  | none =>
    match Environment.get? Environment.profileVariable around.environment with
    | some name => .ofName name
    | none => default

/-- The directories that are searched, in order. -/
def directories (loader : SettingsLoader) (around : Surroundings) : List String :=
  if loader.searchDirectories.isEmpty then
    around.workingDirectory ::
      (around.userDirectory.map fun directory => FilePath.inside directory fileStem).toList
  else loader.searchDirectories

/-- The files of directories in the order in which they are laid over one another.  The
search ends with the first directory that has a main file. -/
def foundFiles (files : FileTree) (profile : Profile) : List String → List String
  | [] => []
  | directory :: rest =>
    let ofProfile := profileFile profile directory
    let main := mainFile directory
    (if (files.entry? ofProfile).isSome then [ofProfile] else []) ++
      (if (files.entry? main).isSome then [main] else foundFiles files profile rest)

/-- The files to read, unless the one asked for is missing or of an unknown format. -/
def fileNames (loader : SettingsLoader) (around : Surroundings) :
    Except SettingsError (List String) :=
  match loader.file with
  | none =>
    .ok (foundFiles around.files (loader.profile around) (loader.directories around))
  | some path =>
    if (around.files.entry? path).isNone then .error (.fileNotFound path)
    else if FilePath.extension path = fileExtension then .ok [path]
    else .error (.unsupportedFormat (FilePath.extension path))

/-- What a file sets, if its text is well formed; a directory sets nothing. -/
def fileLayer? (files : FileTree) (path : String) : Option Value :=
  match files.entry? path with
  | some (.file text) => (Toml.parse? text).map .object
  | _ => some (.object [])

/-- The layers over the defaults, from the lowest to the highest. -/
def layers (loader : SettingsLoader) (around : Surroundings) :
    Except SettingsError (List Value) :=
  match loader.fileNames around with
  | .error error => .error error
  | .ok names =>
    match names.mapM (fileLayer? around.files) with
    | none => .error .malformed
    | some fromFiles =>
      let fromEnvironment :=
        if loader.readsEnvironment then [Environment.layer around.environment] else []
      .ok (fromFiles ++ fromEnvironment ++ loader.overrides.map Settings.toValue)

/-- The layers are read leniently: a section may also be a list of its fields, and items
beyond them are ignored. -/
def dialect : Dialect := ⟨true⟩

/-- The settings that all sources together make. -/
def load (loader : SettingsLoader) (around : Surroundings) : Except SettingsError Settings :=
  match loader.layers around with
  | .error error => .error error
  | .ok layers =>
    let merged := Value.stacked Settings.standard.toValue layers
    match Settings.read dialect (.ofValue merged) with
    | none => .error .malformed
    | some settings => settings.validated

end SettingsLoader
end Plugboard
