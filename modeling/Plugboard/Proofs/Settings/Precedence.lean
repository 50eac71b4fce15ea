import Plugboard.Proofs.Settings.Parts
import Plugboard.Proofs.Toml.Orderly
import Plugboard.Settings.Loading

/-!
# The highest source decides

Settings are loaded from several sources.  The files among them are found by a search that looks at
a few paths only.  Each leaf of what is loaded is what the highest source that sets it gives, as
long as sources give tables on the way there; a list in place of a table is never united with
anything, so it hides all that lies below and is hidden by what lies above.
-/

namespace Plugboard

open Document (ofValue)

/-! ## Sources are in order -/

theorem SpanMoments.orderly_toValue (moments : SpanMoments) :
    moments.toValue.Orderly Settings.Nullable := by
  refine Value.orderly_record ?_
  simp only [List.forall_mem_cons]
  exact ⟨fun _ => .bool _, fun _ => .bool _, fun _ => .bool _, fun _ => .bool _,
    List.forall_mem_nil _⟩

theorem LoggingSettings.orderly_toValue (settings : LoggingSettings) :
    settings.toValue.Orderly Settings.Nullable := by
  refine Value.orderly_record ?_
  simp only [List.forall_mem_cons]
  refine ⟨fun _ => .string _, fun _ => .string _, fun _ => .string _,
    fun _ => settings.spanMoments.orderly_toValue, fun _ => .bool _, fun _ => .bool _, ?_, ?_,
    List.forall_mem_nil _⟩
  · intro hpresent
    cases hpath : settings.filePath with
    | none =>
        rw [hpath] at hpresent
        exact absurd ⟨rfl, rfl⟩ hpresent
    | some path => exact .string path
  · intro _
    refine Value.orderly_record (List.forall_mem_map.mpr ?_)
    exact fun _ _ _ => .string _

theorem ModeSettings.orderly_toValue (settings : ModeSettings) :
    settings.toValue.Orderly Settings.Nullable := by
  refine Value.orderly_record ?_
  simp only [List.forall_mem_cons]
  exact ⟨fun _ => .bool _, fun _ => .bool _, fun _ => .bool _, List.forall_mem_nil _⟩

theorem CircuitSettings.orderly_toValue (settings : CircuitSettings) :
    settings.toValue.Orderly Settings.Nullable := by
  refine Value.orderly_record ?_
  simp only [List.forall_mem_cons]
  exact ⟨fun _ => .bool _, fun _ => .number _, fun _ => .number _, fun _ => .number _,
    List.forall_mem_nil _⟩

theorem QueueSettings.orderly_toValue (settings : QueueSettings) :
    settings.toValue.Orderly Settings.Nullable := by
  refine Value.orderly_record ?_
  simp only [List.forall_mem_cons]
  exact ⟨fun _ => .string _, fun _ => .number _, List.forall_mem_nil _⟩

theorem Settings.orderly_toValue (settings : Settings) :
    settings.toValue.Orderly Settings.Nullable := by
  refine Value.orderly_record ?_
  simp only [List.forall_mem_cons]
  exact ⟨fun _ => settings.logging.orderly_toValue, fun _ => settings.modes.orderly_toValue,
    fun _ => settings.circuit.orderly_toValue, fun _ => settings.queue.orderly_toValue,
    List.forall_mem_nil _⟩

/-- Settings that are found valid are returned as they are. -/
theorem Settings.eq_of_validated {settings valid : Settings}
    (hvalid : settings.validated = .ok valid) : valid = settings ∧ settings.fault? = none := by
  unfold validated at hvalid
  split at hvalid
  · cases hvalid
  · rename_i hfault
    exact ⟨(Except.ok.inj hvalid).symm, hfault⟩

namespace SettingsLoader

section

variable {loader : SettingsLoader} {around : Surroundings} {settings : Settings}

theorem orderly_of_fileLayer? {files : FileTree} {path : String} {layer : Value}
    (hlayer : fileLayer? files path = some layer) : layer.Orderly Settings.Nullable := by
  unfold fileLayer? at hlayer
  split at hlayer
  · obtain ⟨members, hmembers, rfl⟩ := Option.map_eq_some_iff.mp hlayer
    exact (Toml.spelled_of_parse? hmembers).orderly
  · cases hlayer
    exact Value.spelled_empty.orderly

/-- All layers from files are orderly. -/
theorem orderly_of_fileLayers {files : FileTree} {paths : List String} {fromFiles : List Value}
    (hfiles : paths.mapM (fileLayer? files) = some fromFiles) :
    ∀ layer ∈ fromFiles, layer.Orderly Settings.Nullable := by
  induction paths generalizing fromFiles with
  | nil =>
      cases hfiles
      exact List.forall_mem_nil _
  | cons path rest ih =>
      simp only [List.mapM_cons, Option.bind_eq_bind, Option.bind_eq_some_iff] at hfiles
      obtain ⟨layer, hlayer, others, hothers, hboth⟩ := hfiles
      cases hboth
      exact List.forall_mem_cons.mpr ⟨orderly_of_fileLayer? hlayer, ih hothers⟩

/-! ## The files that are looked at -/

def hasMain (files : FileTree) (directory : String) : Bool :=
  (files.entry? (mainFile directory)).isSome

/-- The directories up to the first that has a main file, and that one. -/
def searched (files : FileTree) (directories : List String) : List String :=
  directories.take (directories.findIdx (hasMain files) + 1)

/-- The paths that are looked at: the one asked for, or in each directory that is searched the
file of the profile and the main file. -/
def consulted (loader : SettingsLoader) (around : Surroundings) : List String :=
  match loader.file with
  | some path => [path]
  | none =>
    (searched around.files (loader.directories around)).flatMap fun directory =>
      [profileFile (loader.profile around) directory, mainFile directory]

/-- The paths that are looked at and lead somewhere. -/
def used (loader : SettingsLoader) (around : Surroundings) : List String :=
  (loader.consulted around).filter fun path => (around.files.entry? path).isSome

/-- Everything that settings are loaded from, the highest source first. -/
def sources (loader : SettingsLoader) (around : Surroundings) (fromFiles : List Value) :
    List Value :=
  (loader.overrides.map Settings.toValue).reverse ++
    (if loader.readsEnvironment then [Environment.layer around.environment] else []) ++
    fromFiles.reverse ++ [Settings.standard.toValue]

theorem searched_cons (files : FileTree) (directory : String) (rest : List String) :
    searched files (directory :: rest) =
      directory :: if hasMain files directory then [] else searched files rest := by
  rw [searched, List.findIdx_cons, List.take_succ_cons]
  cases hasMain files directory <;> rfl

/-- The files that are found are those in the searched directories. -/
theorem foundFiles_eq (files : FileTree) (profile : Profile) (directories : List String) :
    foundFiles files profile directories =
      ((searched files directories).flatMap fun directory =>
        [profileFile profile directory, mainFile directory]).filter
          fun path => (files.entry? path).isSome := by
  induction directories with
  | nil => rfl
  | cons directory rest ih =>
      rw [searched_cons, foundFiles, ih]
      cases hmain : (files.entry? (mainFile directory)).isSome <;>
        cases hprofile : (files.entry? (profileFile profile directory)).isSome <;>
          simp [hasMain, hmain, hprofile]

theorem eq_used_of_fileNames {names : List String} (hnames : loader.fileNames around = .ok names) :
    names = loader.used around := by
  unfold fileNames at hnames
  rw [used, consulted]
  split at hnames
  · rename_i hfile
    rw [hfile, ← Except.ok.inj hnames, foundFiles_eq]
  · rename_i path hfile
    split at hnames
    · cases hnames
    · rename_i hentry
      split at hnames
      · have hsome : (around.files.entry? path).isSome = true :=
          Option.isNone_eq_false_iff.mp (Bool.not_eq_true _ ▸ hentry)
        rw [hfile, ← Except.ok.inj hnames]
        change [path] = [path].filter fun path => (around.files.entry? path).isSome
        rw [List.filter_singleton, hsome]
        rfl
      · cases hnames

/-! ## Nothing else matters -/

/-- The search finds the same files where the same is found at the paths that it looks at. -/
theorem foundFiles_congr {files other : FileTree} {profile : Profile} {directories : List String}
    (hsame : ∀ directory ∈ searched files directories,
      other.entry? (profileFile profile directory) = files.entry? (profileFile profile directory) ∧
        other.entry? (mainFile directory) = files.entry? (mainFile directory)) :
    foundFiles other profile directories = foundFiles files profile directories := by
  induction directories with
  | nil => rfl
  | cons directory rest ih =>
      rw [searched_cons] at hsame
      obtain ⟨⟨hprofile, hmain⟩, hrest⟩ := List.forall_mem_cons.mp hsame
      rw [foundFiles, foundFiles, hprofile, hmain]
      cases hfound : hasMain files directory with
      | true =>
          rw [hasMain] at hfound
          rw [if_pos hfound, if_pos hfound]
      | false =>
          rw [hfound] at hrest
          rw [ih hrest]

theorem fileNames_congr {other : FileTree}
    (hsame : ∀ path ∈ loader.consulted around, other.entry? path = around.files.entry? path) :
    loader.fileNames { around with files := other } = loader.fileNames around := by
  rw [consulted] at hsame
  rw [fileNames, fileNames]
  cases hfile : loader.file with
  | none =>
      rw [hfile] at hsame
      refine congrArg Except.ok (foundFiles_congr fun directory hdirectory => ?_)
      have hboth := fun path hpath =>
    hsame path (List.mem_flatMap.mpr ⟨directory, hdirectory, hpath⟩)
      exact ⟨hboth _ List.mem_cons_self, hboth _ (List.mem_cons_of_mem _ List.mem_cons_self)⟩
  | some path =>
      rw [hfile] at hsame
      simp only [hsame path List.mem_cons_self]

theorem fileLayers_congr {files other : FileTree} {paths : List String}
    (hsame : ∀ path ∈ paths, other.entry? path = files.entry? path) :
    paths.mapM (fileLayer? other) = paths.mapM (fileLayer? files) := by
  induction paths with
  | nil => rfl
  | cons path rest ih =>
      obtain ⟨hpath, hrest⟩ := List.forall_mem_cons.mp hsame
      rw [List.mapM_cons, List.mapM_cons, ih hrest, fileLayer?, fileLayer?, hpath]

/-- Loading depends on no other files than those that are looked at. -/
theorem load_congr {other : FileTree}
    (hsame : ∀ path ∈ loader.consulted around, other.entry? path = around.files.entry? path) :
    loader.load { around with files := other } = loader.load around := by
  have hlayers : loader.layers { around with files := other } = loader.layers around := by
    rw [layers, layers, fileNames_congr hsame]
    cases hnames : loader.fileNames around with
    | error error => rfl
    | ok names =>
        have hfiles : names.mapM (fileLayer? other) = names.mapM (fileLayer? around.files) := by
          rw [eq_used_of_fileNames hnames]
          exact fileLayers_congr fun path hpath => hsame path (List.mem_filter.mp hpath).1
        simp only [hfiles]
  rw [load, load, hlayers]

/-! ## What is loaded -/

theorem exists_fromFiles_of_layers {layers : List Value}
    (hlayers : loader.layers around = .ok layers) :
    ∃ fromFiles, (loader.used around).mapM (fileLayer? around.files) = some fromFiles ∧
      layers.reverse ++ [Settings.standard.toValue] = loader.sources around fromFiles := by
  unfold SettingsLoader.layers at hlayers
  split at hlayers
  · cases hlayers
  · rename_i names hnames
    split at hlayers
    · cases hlayers
    · rename_i fromFiles hfiles
      rw [eq_used_of_fileNames hnames] at hfiles
      refine ⟨fromFiles, hfiles, ?_⟩
      rw [← Except.ok.inj hlayers, sources]
      cases loader.readsEnvironment <;> simp

/-- All sources are orderly. -/
theorem orderly_of_mem_sources {fromFiles : List Value}
    (hfiles : (loader.used around).mapM (fileLayer? around.files) = some fromFiles) :
    ∀ source ∈ loader.sources around fromFiles, source.Orderly Settings.Nullable := by
  simp only [sources, List.forall_mem_append, List.forall_mem_singleton, List.mem_reverse]
  refine ⟨⟨⟨?_, ?_⟩, orderly_of_fileLayers hfiles⟩, Settings.standard.orderly_toValue⟩
  · exact List.forall_mem_map.mpr fun settings _ => settings.orderly_toValue
  · intro layer hlayer
    split at hlayer
    · rw [List.mem_singleton.mp hlayer]
      exact (Environment.spelled_layer _).orderly
    · cases hlayer

/-- What is loaded was read from all sources laid over one another, and has no fault. -/
theorem sources_of_load (hload : loader.load around = .ok settings) :
    settings.fault? = none ∧
      ∃ fromFiles merged, (loader.used around).mapM (fileLayer? around.files) = some fromFiles ∧
        Value.laid? (loader.sources around fromFiles) = some merged ∧
        merged.Orderly Settings.Nullable ∧
        Settings.read dialect (.ofValue merged) = some settings := by
  unfold load at hload
  split at hload
  · cases hload
  · rename_i layers hlayers
    obtain ⟨fromFiles, hfiles, hsources⟩ := exists_fromFiles_of_layers hlayers
    have horderly := orderly_of_mem_sources hfiles
    rw [← hsources] at horderly
    have hmerged : (Value.stacked Settings.standard.toValue layers).Orderly Settings.Nullable :=
      Settings.standard.orderly_toValue.stacked fun layer hlayer =>
        horderly layer (List.mem_append_left _ (List.mem_reverse.mpr hlayer))
    dsimp only at hload
    split at hload
    · cases hload
    · rename_i found hread
      obtain ⟨rfl, hfault⟩ := Settings.eq_of_validated hload
      refine ⟨hfault, fromFiles, _, hfiles, ?_, hmerged, hread⟩
      rw [← hsources]
      exact Value.laid?_reverse_append _ layers

/-- A leaf of what is read from values laid over one another is what is seen of it. -/
theorem shows_seen {sources : List Value} {merged : Value}
    (hsources : ∀ source ∈ sources, source.Orderly Settings.Nullable)
    (hlaid : Value.laid? sources = some merged) (hmerged : merged.Orderly Settings.Nullable)
    (hread : Settings.read dialect (.ofValue merged) = some settings)
    {part : SomePart Settings} (hpart : Settings.HasLeaf part) :
    part.2.Shows dialect settings (Value.seen? part.2.steps sources) := by
  obtain ⟨hfits, hrefuses⟩ := hpart.fits
  have hshows := hfits.shows (.inr hmerged) hread
  have hkept : ∀ source ∈ sources, source.Kept Settings.Nullable :=
    fun source hsource => .inr (hsources source hsource)
  obtain ⟨hnone, hsome⟩ := Value.given?_laid hkept part.2.steps
  rw [hlaid, Option.bind_some] at hnone hsome
  cases hseen : Value.seen? part.2.steps sources with
  | none =>
      rw [hnone hseen] at hshows
      exact hshows
  | some value =>
      obtain ⟨below, hgiven⟩ := hsome value hseen
      rw [hgiven] at hshows
      -- A leaf is not read from an object, so nothing of what lies below is united with it.
      have hobject : (value.overlay below).isObject = false :=
        hrefuses.isObject_eq_false (Value.Kept.given? (.inr hmerged) hgiven) hshows
      rw [Value.isObject_overlay] at hobject
      rw [Value.overlay_of_isObject_eq_false hobject] at hshows
      exact hshows

/-- What is loaded is valid.  Of each leaf it has what is seen of it through all sources from the
highest on, which is what the highest source gives that sets it where all give tables on the way.
Nothing matters that other paths lead to. -/
structure FollowsSources (loader : SettingsLoader) (around : Surroundings) (settings : Settings) :
    Prop where
  valid : settings.fault? = none
  leaves : ∃ fromFiles, (loader.used around).mapM (fileLayer? around.files) = some fromFiles ∧
    ∀ part, Settings.HasLeaf part →
      part.2.Shows dialect settings
          (Value.seen? part.2.steps (loader.sources around fromFiles)) ∧
        ((∀ source ∈ loader.sources around fromFiles, source.Tabular part.2.steps) →
          part.2.Shows dialect settings
            ((loader.sources around fromFiles).findSome? (Value.given? part.2.steps)))
  elsewhere : ∀ other : FileTree,
    (∀ path ∈ loader.consulted around, other.entry? path = around.files.entry? path) →
      loader.load { around with files := other } = .ok settings

theorem highest_source_decides (hload : loader.load around = .ok settings) :
    loader.FollowsSources around settings where
  valid := (sources_of_load hload).1
  leaves := by
    obtain ⟨-, fromFiles, merged, hfiles, hlaid, hmerged, hread⟩ := sources_of_load hload
    refine ⟨fromFiles, hfiles, fun part hpart => ?_⟩
    have hseen := shows_seen (orderly_of_mem_sources hfiles) hlaid hmerged hread hpart
    refine ⟨hseen, fun htabular => ?_⟩
    rw [← Value.seen?_of_tabular htabular]
    exact hseen
  elsewhere := fun _ hsame => (load_congr hsame).trans hload

end

/-! ## Samples -/

namespace Sample

/-- Both files of the working directory, under variables of the environment. -/
def around (environment : List (String × String)) : Surroundings where
  files :=
    { files :=
        [("cwd/junction.toml", "[queue]\ncapacity = 5\n"),
         ("cwd/junction.development.toml", "[queue]\ncapacity = 3\ndefault_queue = 'jobs'\n")]
      directories := [] }
  environment := environment
  workingDirectory := "cwd"
  userDirectory := none

def fromFiles : List Value :=
  [.object [("queue", .object [("capacity", .ofInt 3), ("default_queue", .string "jobs")])],
   .object [("queue", .object [("capacity", .ofInt 5)])]]

def settings (queue : QueueSettings) : Settings := { Settings.standard with queue }

def capacity : Part Settings UInt64 :=
  Settings.queuePart.inside (.field "capacity" 1 .word64 QueueSettings.standard (·.capacity))

theorem hasLeaf_capacity : Settings.HasLeaf ⟨UInt64, capacity⟩ :=
  .inl (List.mem_append_right _ (List.mem_map.mpr ⟨_, List.mem_of_mem_getLast? rfl, rfl⟩))

theorem load_of_toOption {loader : SettingsLoader} {around : Surroundings} {settings : Settings}
    (hoption : (loader.load around).toOption = some settings) :
    loader.load around = .ok settings := by
  cases hload : loader.load around with
  | error error =>
      rw [hload] at hoption
      cases hoption
  | ok loaded =>
      rw [hload] at hoption
      exact congrArg _ (Option.some.inj hoption)

theorem load_table :
    standard.load (around [("JUNCTION_QUEUE__CAPACITY", "7")]) = .ok (settings ⟨"jobs", 7⟩) :=
  load_of_toOption (by decide +kernel)

theorem load_list :
    standard.load (around [("JUNCTION_QUEUE", "[mail]")]) = .ok (settings ⟨"mail", 1024⟩) :=
  load_of_toOption (by decide +kernel)

end Sample

/-- A variable over both files. -/
theorem highest_source_decides_of_sample :
    standard.load (Sample.around [("JUNCTION_QUEUE__CAPACITY", "7")]) =
        .ok (Sample.settings ⟨"jobs", 7⟩) ∧
      standard.FollowsSources (Sample.around [("JUNCTION_QUEUE__CAPACITY", "7")])
        (Sample.settings ⟨"jobs", 7⟩) :=
  ⟨Sample.load_table, highest_source_decides Sample.load_table⟩

/-- A list that sets only the name of the queue hides the capacity that the main file sets. -/
theorem list_hides_lower_fields :
    standard.load (Sample.around [("JUNCTION_QUEUE", "[mail]")]) =
        .ok (Sample.settings ⟨"mail", 1024⟩) ∧
      (standard.used (Sample.around [("JUNCTION_QUEUE", "[mail]")])).mapM
        (fileLayer? (Sample.around [("JUNCTION_QUEUE", "[mail]")]).files) =
          some Sample.fromFiles ∧
      Settings.HasLeaf ⟨UInt64, Sample.capacity⟩ ∧
      ¬ Sample.capacity.Shows dialect (Sample.settings ⟨"mail", 1024⟩)
          ((standard.sources (Sample.around [("JUNCTION_QUEUE", "[mail]")])
            Sample.fromFiles).findSome? (Value.given? Sample.capacity.steps)) := by
  refine ⟨Sample.load_list, by decide +kernel, Sample.hasLeaf_capacity, ?_⟩
  have hgiven : (standard.sources (Sample.around [("JUNCTION_QUEUE", "[mail]")])
      Sample.fromFiles).findSome? (Value.given? Sample.capacity.steps) = some (.ofInt 5) := by
    decide +kernel
  rw [hgiven, Part.Shows]
  decide +kernel

end SettingsLoader
end Plugboard
