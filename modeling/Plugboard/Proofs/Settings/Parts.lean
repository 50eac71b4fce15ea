import Plugboard.Proofs.Data.Overlay
import Plugboard.Proofs.Settings.RoundTrip

/-!
# The parts of settings

A part of settings is what is read at the end of some steps.  Settings that were read from a value
have every part as the value gives it there, and the standard of the part where the value gives
nothing.  The smallest parts, and the level of each filter, are never read from an object.
-/

namespace Plugboard

open Document (ofValue ofMembers)

variable {dialect : Dialect} {α σ τ : Type} {value : Value}

/-- The keys under which null may stand. -/
def Settings.Nullable (key : String) : Prop := key = "file_path"

namespace Value

theorem orElse_slot {read : Reader α} {fallback : α} (name : String) (place : Nat) (value : Value) :
    (value.slot name place).orElse read fallback dialect =
      match value.given? [⟨name, place⟩] with
      | some content => read dialect (.ofValue content)
      | none => some fallback := by
  cases value with
  | object members =>
      rw [slot, given?]
      cases Members.get? name members <;> rfl
  | array items =>
      rw [slot, given?]
      cases items[place]? <;> rfl
  | _ => rfl

end Value

/-! ## Parts -/

/-- A part of settings: where values have it, how it is read there, and what it is where nothing
is given. -/
structure Part (σ α : Type) where
  steps : List Value.Step
  read : Reader α
  standard : α
  get : σ → α

namespace Part

/-- The settings have the part as it is given, or its standard. -/
def Shows (part : Part σ α) (dialect : Dialect) (settings : σ) : Option Value → Prop
  | some value => part.read dialect (.ofValue value) = some (part.get settings)
  | none => part.get settings = part.standard

/-- Settings have the part as the value that they are read from gives it, and standard settings
have its standard. -/
structure Fits (part : Part σ α) (read : Reader σ) (standard : σ) : Prop where
  shows : ∀ {dialect value settings}, value.Kept Settings.Nullable →
    read dialect (.ofValue value) = some settings →
    part.Shows dialect settings (value.given? part.steps)
  get_standard : part.get standard = part.standard

/-- The part of a field of a record, given how the whole record is where nothing is given. -/
def field (name : String) (place : Nat) (read : Reader α) (standard : σ) (get : σ → α) :
    Part σ α :=
  ⟨[⟨name, place⟩], read, get standard, get⟩

/-- A part of a part. -/
def inside (outer : Part τ σ) (inner : Part σ α) : Part τ α :=
  ⟨outer.steps ++ inner.steps, inner.read, inner.standard, fun settings =>
    inner.get (outer.get settings)⟩

theorem fits_field {name : String} {place : Nat} {content : Reader α} {get : σ → α}
    {read : Reader σ} {standard : σ}
    (hfield : ∀ {dialect value settings}, value.Kept Settings.Nullable →
      read dialect (.ofValue value) = some settings →
      (value.slot name place).orElse content (get standard) dialect = some (get settings)) :
    (field name place content standard get).Fits read standard where
  shows {dialect value settings} hkept hread := by
    have hslot := hfield hkept hread
    rw [Value.orElse_slot] at hslot
    rw [field]
    cases hgiven : value.given? [⟨name, place⟩] with
    | none =>
        rw [hgiven] at hslot
        exact (Option.some.inj hslot).symm
    | some content =>
        rw [hgiven] at hslot
        exact hslot
  get_standard := rfl

/-- A part of a part fits if both do. -/
theorem Fits.inside {outer : Part τ σ} {inner : Part σ α} {read : Reader τ} {standard : τ}
    (houter : outer.Fits read standard) (hinner : inner.Fits outer.read outer.standard) :
    (outer.inside inner).Fits read standard where
  shows {dialect value settings} hkept hread := by
    have hshows := houter.shows hkept hread
    rw [Part.inside, Value.given?_append]
    cases hgiven : value.given? outer.steps with
    | none =>
        rw [hgiven] at hshows
        exact (congrArg inner.get hshows).trans hinner.get_standard
    | some content =>
        rw [hgiven] at hshows
        exact hinner.shows (hkept.given? hgiven) hshows
  get_standard := (congrArg inner.get houter.get_standard).trans hinner.get_standard

end Part

/-! ## Leaves -/

/-- Nothing is read from an object in order. -/
def Reader.RefusesObjects (read : Reader α) : Prop :=
  ∀ dialect members, (Value.object members).Orderly Settings.Nullable →
    read dialect (.ofValue (.object members)) = none

theorem Reader.RefusesObjects.isObject_eq_false {read : Reader α} {content : α}
    (hrefuses : read.RefusesObjects) (hkept : value.Kept Settings.Nullable)
    (hread : read dialect (.ofValue value) = some content) : value.isObject = false := by
  cases value with
  | object members =>
      have hrefused := hrefuses dialect members (hkept.resolve_left nofun)
      exact absurd (hread.symm.trans hrefused) nofun
  | _ => rfl

/-- A variant is not read from an object, since null stands nowhere under its name. -/
theorem Reader.refusesObjects_variant {variants : List (String × α)}
    (hvariants : variants.lookup "file_path" = none) :
    (Reader.variant variants).RefusesObjects := by
  intro dialect members horderly
  match members with
  | [] => rfl
  | [(name, content)] =>
      cases horderly with
      | object hordered hmembers =>
          cases content with
          | null =>
              by_cases hname : name = "file_path"
              · subst hname
                exact hvariants
              · cases hmembers _ List.mem_cons_self fun hboth => hname hboth.2
          | _ => rfl
  | (_, content) :: (_, _) :: _ => cases content <;> rfl

/-- The entry of a name is read from the member of that name. -/
theorem Reader.get?_of_entriesFrom {read : Reader α} {members : Members}
    {seen entries : List (String × α)} (hordered : Members.Ordered members)
    (hread : Reader.entriesFrom read dialect (ofMembers members) seen = some entries)
    (name : String) :
    match Members.get? name members with
    | some content => read dialect (.ofValue content) = Members.get? name entries ∧
        (Members.get? name entries).isSome
    | none => Members.get? name entries = Members.get? name seen := by
  induction members generalizing seen with
  | nil =>
      cases hread
      rfl
  | cons member rest ih =>
      obtain ⟨key, value⟩ := member
      rw [ofMembers, Reader.entriesFrom] at hread
      split at hread
      · rename_i content hcontent
        have hlater := ih (Members.ordered_cons.mp hordered).2 hread
        rw [Members.get?]
        by_cases hkey : key = name
        · have hnone : Members.get? name rest = none := hkey ▸ hordered.get?_rest
          rw [hnone, hkey, Members.get?_insert_self] at hlater
          rw [if_pos hkey]
          exact ⟨hcontent.trans hlater.symm, by rw [hlater]; rfl⟩
        · rw [Members.get?_insert_of_ne (Ne.symm hkey)] at hlater
          rw [if_neg hkey]
          exact hlater
      · cases hread

/-! ## Sections -/

/-- A part with the type of what it holds. -/
abbrev SomePart (σ : Type) := (α : Type) × Part σ α

/-- Every part in the list is a leaf that fits. -/
def AllFit (parts : List (SomePart σ)) (read : Reader σ) (standard : σ) : Prop :=
  ∀ part ∈ parts, part.2.Fits read standard ∧ part.2.read.RefusesObjects

def Part.eachInside (outer : Part τ σ) (parts : List (SomePart σ)) : List (SomePart τ) :=
  parts.map fun part => ⟨part.1, outer.inside part.2⟩

theorem AllFit.eachInside {outer : Part τ σ} {parts : List (SomePart σ)} {read : Reader τ}
    {standard : τ} (houter : outer.Fits read standard)
    (hparts : AllFit parts outer.read outer.standard) :
    AllFit (outer.eachInside parts) read standard := by
  intro part hpart
  obtain ⟨inner, hinner, rfl⟩ := List.mem_map.mp hpart
  exact ⟨houter.inside (hparts inner hinner).1, (hparts inner hinner).2⟩

theorem AllFit.append {first second : List (SomePart σ)} {read : Reader σ} {standard : σ}
    (hfirst : AllFit first read standard) (hsecond : AllFit second read standard) :
    AllFit (first ++ second) read standard := by
  intro part hpart
  exact (List.mem_append.mp hpart).elim (hfirst part) (hsecond part)


/-! ### Moments of spans -/

namespace SpanMoments

theorem fields_of_read {moments : SpanMoments} (hkept : value.Kept Settings.Nullable)
    (hread : SpanMoments.read dialect (.ofValue value) = some moments) :
    (value.slot "new" 0).orElse .bool SpanMoments.none.new dialect = some moments.new ∧
    (value.slot "enter" 1).orElse .bool SpanMoments.none.enter dialect = some moments.enter ∧
    (value.slot "exit" 2).orElse .bool SpanMoments.none.exit dialect = some moments.exit ∧
    (value.slot "close" 3).orElse .bool SpanMoments.none.close dialect = some moments.close := by
  unfold SpanMoments.read at hread
  split at hread
  · rename_i slots
    have hslots := Reader.eq_slots_of_ofValue hkept.ordered slots
    simp only [List.zipIdx, List.map_cons, List.map_nil, List.cons.injEq, and_true] at hslots
    obtain ⟨rfl, rfl, rfl, rfl⟩ := hslots
    simp only [Option.bind_eq_bind, Option.bind_eq_some_iff] at hread
    obtain ⟨_, hnew, _, henter, _, hexit, _, hclose, hall⟩ := hread
    cases hall
    exact ⟨hnew, henter, hexit, hclose⟩
  · cases hread

def leaves : List (SomePart SpanMoments) :=
  [⟨Bool, .field "new" 0 .bool SpanMoments.none (·.new)⟩,
   ⟨Bool, .field "enter" 1 .bool SpanMoments.none (·.enter)⟩,
   ⟨Bool, .field "exit" 2 .bool SpanMoments.none (·.exit)⟩,
   ⟨Bool, .field "close" 3 .bool SpanMoments.none (·.close)⟩]

theorem allFit_leaves : AllFit leaves SpanMoments.read SpanMoments.none := by
  simp only [AllFit, leaves, List.forall_mem_cons]
  refine ⟨⟨?_, fun _ _ _ => rfl⟩, ⟨?_, fun _ _ _ => rfl⟩, ⟨?_, fun _ _ _ => rfl⟩,
    ⟨?_, fun _ _ _ => rfl⟩, List.forall_mem_nil _⟩
  · exact Part.fits_field fun hkept hread => (fields_of_read hkept hread).1
  · exact Part.fits_field fun hkept hread => (fields_of_read hkept hread).2.1
  · exact Part.fits_field fun hkept hread => (fields_of_read hkept hread).2.2.1
  · exact Part.fits_field fun hkept hread => (fields_of_read hkept hread).2.2.2

end SpanMoments

/-! ### The section about logging -/

namespace LoggingSettings

theorem fields_of_read {settings : LoggingSettings} (hkept : value.Kept Settings.Nullable)
    (hread : LoggingSettings.read dialect (.ofValue value) = some settings) :
    (value.slot "level" 0).orElse Level.read standard.level dialect = some settings.level ∧
    (value.slot "format" 1).orElse LogFormat.read standard.format dialect = some settings.format ∧
    (value.slot "output" 2).orElse LogOutput.read standard.output dialect = some settings.output ∧
    (value.slot "span_events" 3).orElse SpanMoments.read standard.spanMoments dialect =
      some settings.spanMoments ∧
    (value.slot "thread_ids" 4).orElse .bool standard.threadIds dialect = some settings.threadIds ∧
    (value.slot "file_location" 5).orElse .bool standard.fileLocation dialect =
      some settings.fileLocation ∧
    (value.slot "file_path" 6).orElse (.option .string) standard.filePath dialect =
      some settings.filePath ∧
    (value.slot "filters" 7).orElse (.entries Level.read) standard.filters dialect =
      some settings.filters := by
  unfold LoggingSettings.read at hread
  split at hread
  · rename_i slots
    have hslots := Reader.eq_slots_of_ofValue hkept.ordered slots
    simp only [fields, List.zipIdx, List.map_cons, List.map_nil, List.cons.injEq, and_true]
      at hslots
    obtain ⟨rfl, rfl, rfl, rfl, rfl, rfl, rfl, rfl⟩ := hslots
    simp only [Option.bind_eq_bind, Option.bind_eq_some_iff] at hread
    obtain ⟨_, hlevel, _, hformat, _, houtput, _, hspanMoments,
      _, hthreadIds, _, hfileLocation, _, hfilePath, _, hfilters, hall⟩ := hread
    cases hall
    exact ⟨hlevel, hformat, houtput, hspanMoments, hthreadIds, hfileLocation, hfilePath, hfilters⟩
  · cases hread

def spans : Part LoggingSettings SpanMoments :=
  .field "span_events" 3 SpanMoments.read standard (·.spanMoments)

theorem fits_spans : spans.Fits LoggingSettings.read standard :=
  Part.fits_field fun hkept hread => (fields_of_read hkept hread).2.2.2.1

/-- The leaves, less the levels of filters. -/
def leaves : List (SomePart LoggingSettings) :=
  [⟨Level, .field "level" 0 Level.read standard (·.level)⟩,
   ⟨LogFormat, .field "format" 1 LogFormat.read standard (·.format)⟩,
   ⟨LogOutput, .field "output" 2 LogOutput.read standard (·.output)⟩,
   ⟨Bool, .field "thread_ids" 4 .bool standard (·.threadIds)⟩,
   ⟨Bool, .field "file_location" 5 .bool standard (·.fileLocation)⟩,
   ⟨Option String, .field "file_path" 6 (.option .string) standard (·.filePath)⟩] ++
  spans.eachInside SpanMoments.leaves

theorem allFit_leaves : AllFit leaves LoggingSettings.read standard := by
  refine AllFit.append ?_ (SpanMoments.allFit_leaves.eachInside fits_spans)
  simp only [AllFit, List.forall_mem_cons]
  refine ⟨⟨?_, Reader.refusesObjects_variant rfl⟩, ⟨?_, Reader.refusesObjects_variant rfl⟩,
    ⟨?_, Reader.refusesObjects_variant rfl⟩, ⟨?_, fun _ _ _ => rfl⟩, ⟨?_, fun _ _ _ => rfl⟩,
    ⟨?_, fun _ _ _ => rfl⟩, List.forall_mem_nil _⟩
  · exact Part.fits_field fun hkept hread => (fields_of_read hkept hread).1
  · exact Part.fits_field fun hkept hread => (fields_of_read hkept hread).2.1
  · exact Part.fits_field fun hkept hread => (fields_of_read hkept hread).2.2.1
  · exact Part.fits_field fun hkept hread => (fields_of_read hkept hread).2.2.2.2.1
  · exact Part.fits_field fun hkept hread => (fields_of_read hkept hread).2.2.2.2.2.1
  · exact Part.fits_field fun hkept hread => (fields_of_read hkept hread).2.2.2.2.2.2.1

def allFilters : Part LoggingSettings (List (String × Level)) :=
  .field "filters" 7 (.entries Level.read) standard (·.filters)

theorem fits_allFilters : allFilters.Fits LoggingSettings.read standard :=
  Part.fits_field fun hkept hread => (fields_of_read hkept hread).2.2.2.2.2.2.2

/-- The level of the filter of a module, if there is such a filter. -/
def levelOf (module : String) : Part (List (String × Level)) (Option Level) where
  steps := [⟨module, 0⟩]
  read dialect document := (Level.read dialect document).map some
  standard := none
  get := Members.get? module

/-- The level of a filter is read as any member of an object is. -/
theorem fits_levelOf (module : String) : (levelOf module).Fits (.entries Level.read) [] where
  shows {dialect value entries} hkept hread := by
    cases value with
    | object members =>
        have hentry := Reader.get?_of_entriesFrom (hkept.ordered members rfl) hread module
        rw [levelOf, Value.given?]
        cases hmember : Members.get? module members with
        | none =>
            rw [hmember] at hentry
            exact hentry
        | some content =>
            rw [hmember] at hentry
            obtain ⟨level, hlevel⟩ := Option.isSome_iff_exists.mp hentry.2
            rw [hlevel] at hentry
            exact (congrArg (Option.map some) hentry.1).trans (congrArg some hlevel.symm)
    | _ => cases hread
  get_standard := rfl

def filterOf (module : String) : Part LoggingSettings (Option Level) :=
  allFilters.inside (levelOf module)

theorem fits_filterOf (module : String) : (filterOf module).Fits LoggingSettings.read standard :=
  fits_allFilters.inside (fits_levelOf module)

theorem refusesObjects_filterOf (module : String) : (filterOf module).read.RefusesObjects := by
  intro dialect members horderly
  have hnone : Level.read dialect (.ofValue (.object members)) = none :=
    Reader.refusesObjects_variant rfl dialect members horderly
  exact congrArg (Option.map some) hnone

end LoggingSettings

/-! ### The other sections -/

namespace ModeSettings

theorem fields_of_read {settings : ModeSettings} (hkept : value.Kept Settings.Nullable)
    (hread : ModeSettings.read dialect (.ofValue value) = some settings) :
    (value.slot "graceful" 0).orElse .bool standard.graceful dialect = some settings.graceful ∧
    (value.slot "strict" 1).orElse .bool standard.strict dialect = some settings.strict ∧
    (value.slot "debug" 2).orElse .bool standard.debug dialect = some settings.debug := by
  unfold ModeSettings.read at hread
  split at hread
  · rename_i slots
    have hslots := Reader.eq_slots_of_ofValue hkept.ordered slots
    simp only [List.zipIdx, List.map_cons, List.map_nil, List.cons.injEq, and_true] at hslots
    obtain ⟨rfl, rfl, rfl⟩ := hslots
    simp only [Option.bind_eq_bind, Option.bind_eq_some_iff] at hread
    obtain ⟨_, hgraceful, _, hstrict, _, hdebug, hall⟩ := hread
    cases hall
    exact ⟨hgraceful, hstrict, hdebug⟩
  · cases hread

def leaves : List (SomePart ModeSettings) :=
  [⟨Bool, .field "graceful" 0 .bool standard (·.graceful)⟩,
   ⟨Bool, .field "strict" 1 .bool standard (·.strict)⟩,
   ⟨Bool, .field "debug" 2 .bool standard (·.debug)⟩]

theorem allFit_leaves : AllFit leaves ModeSettings.read standard := by
  simp only [AllFit, leaves, List.forall_mem_cons]
  refine ⟨⟨?_, fun _ _ _ => rfl⟩, ⟨?_, fun _ _ _ => rfl⟩, ⟨?_, fun _ _ _ => rfl⟩,
    List.forall_mem_nil _⟩
  · exact Part.fits_field fun hkept hread => (fields_of_read hkept hread).1
  · exact Part.fits_field fun hkept hread => (fields_of_read hkept hread).2.1
  · exact Part.fits_field fun hkept hread => (fields_of_read hkept hread).2.2

end ModeSettings

namespace CircuitSettings

theorem fields_of_read {settings : CircuitSettings} (hkept : value.Kept Settings.Nullable)
    (hread : CircuitSettings.read dialect (.ofValue value) = some settings) :
    (value.slot "enabled" 0).orElse .bool standard.enabled dialect = some settings.enabled ∧
    (value.slot "threshold" 1).orElse .word32 standard.threshold dialect =
      some settings.threshold ∧
    (value.slot "timeout_secs" 2).orElse .word64 standard.timeoutSecs dialect =
      some settings.timeoutSecs ∧
    (value.slot "half_open_max" 3).orElse .word32 standard.halfOpenMax dialect =
      some settings.halfOpenMax := by
  unfold CircuitSettings.read at hread
  split at hread
  · rename_i slots
    have hslots := Reader.eq_slots_of_ofValue hkept.ordered slots
    simp only [List.zipIdx, List.map_cons, List.map_nil, List.cons.injEq, and_true] at hslots
    obtain ⟨rfl, rfl, rfl, rfl⟩ := hslots
    simp only [Option.bind_eq_bind, Option.bind_eq_some_iff] at hread
    obtain ⟨_, henabled, _, hthreshold, _, htimeoutSecs, _, hhalfOpenMax, hall⟩ := hread
    cases hall
    exact ⟨henabled, hthreshold, htimeoutSecs, hhalfOpenMax⟩
  · cases hread

def leaves : List (SomePart CircuitSettings) :=
  [⟨Bool, .field "enabled" 0 .bool standard (·.enabled)⟩,
   ⟨UInt32, .field "threshold" 1 .word32 standard (·.threshold)⟩,
   ⟨UInt64, .field "timeout_secs" 2 .word64 standard (·.timeoutSecs)⟩,
   ⟨UInt32, .field "half_open_max" 3 .word32 standard (·.halfOpenMax)⟩]

theorem allFit_leaves : AllFit leaves CircuitSettings.read standard := by
  simp only [AllFit, leaves, List.forall_mem_cons]
  refine ⟨⟨?_, fun _ _ _ => rfl⟩, ⟨?_, fun _ _ _ => rfl⟩, ⟨?_, fun _ _ _ => rfl⟩,
    ⟨?_, fun _ _ _ => rfl⟩, List.forall_mem_nil _⟩
  · exact Part.fits_field fun hkept hread => (fields_of_read hkept hread).1
  · exact Part.fits_field fun hkept hread => (fields_of_read hkept hread).2.1
  · exact Part.fits_field fun hkept hread => (fields_of_read hkept hread).2.2.1
  · exact Part.fits_field fun hkept hread => (fields_of_read hkept hread).2.2.2

end CircuitSettings

namespace QueueSettings

theorem fields_of_read {settings : QueueSettings} (hkept : value.Kept Settings.Nullable)
    (hread : QueueSettings.read dialect (.ofValue value) = some settings) :
    (value.slot "default_queue" 0).orElse .string standard.defaultQueue dialect =
      some settings.defaultQueue ∧
    (value.slot "capacity" 1).orElse .word64 standard.capacity dialect = some settings.capacity := by
  unfold QueueSettings.read at hread
  split at hread
  · rename_i slots
    have hslots := Reader.eq_slots_of_ofValue hkept.ordered slots
    simp only [List.zipIdx, List.map_cons, List.map_nil, List.cons.injEq, and_true] at hslots
    obtain ⟨rfl, rfl⟩ := hslots
    simp only [Option.bind_eq_bind, Option.bind_eq_some_iff] at hread
    obtain ⟨_, hdefaultQueue, _, hcapacity, hall⟩ := hread
    cases hall
    exact ⟨hdefaultQueue, hcapacity⟩
  · cases hread

def leaves : List (SomePart QueueSettings) :=
  [⟨String, .field "default_queue" 0 .string standard (·.defaultQueue)⟩,
   ⟨UInt64, .field "capacity" 1 .word64 standard (·.capacity)⟩]

theorem allFit_leaves : AllFit leaves QueueSettings.read standard := by
  simp only [AllFit, leaves, List.forall_mem_cons]
  refine ⟨⟨?_, fun _ _ _ => rfl⟩, ⟨?_, fun _ _ _ => rfl⟩, List.forall_mem_nil _⟩
  · exact Part.fits_field fun hkept hread => (fields_of_read hkept hread).1
  · exact Part.fits_field fun hkept hread => (fields_of_read hkept hread).2

end QueueSettings

/-! ## All settings -/

namespace Settings

theorem fields_of_read {settings : Settings} (hkept : value.Kept Settings.Nullable)
    (hread : Settings.read dialect (.ofValue value) = some settings) :
    (value.slot "logging" 0).orElse LoggingSettings.read standard.logging dialect =
      some settings.logging ∧
    (value.slot "dispatcher" 1).orElse ModeSettings.read standard.modes dialect =
      some settings.modes ∧
    (value.slot "circuit_breaker" 2).orElse CircuitSettings.read standard.circuit dialect =
      some settings.circuit ∧
    (value.slot "queue" 3).orElse QueueSettings.read standard.queue dialect = some settings.queue := by
  unfold Settings.read at hread
  split at hread
  · rename_i slots
    have hslots := Reader.eq_slots_of_ofValue hkept.ordered slots
    simp only [List.zipIdx, List.map_cons, List.map_nil, List.cons.injEq, and_true] at hslots
    obtain ⟨rfl, rfl, rfl, rfl⟩ := hslots
    simp only [Option.bind_eq_bind, Option.bind_eq_some_iff] at hread
    obtain ⟨_, hlogging, _, hmodes, _, hcircuit, _, hqueue, hall⟩ := hread
    cases hall
    exact ⟨hlogging, hmodes, hcircuit, hqueue⟩
  · cases hread

def loggingPart : Part Settings LoggingSettings :=
  .field "logging" 0 LoggingSettings.read standard (·.logging)

def modesPart : Part Settings ModeSettings :=
  .field "dispatcher" 1 ModeSettings.read standard (·.modes)

def circuitPart : Part Settings CircuitSettings :=
  .field "circuit_breaker" 2 CircuitSettings.read standard (·.circuit)

def queuePart : Part Settings QueueSettings :=
  .field "queue" 3 QueueSettings.read standard (·.queue)

theorem fits_loggingPart : loggingPart.Fits Settings.read standard :=
  Part.fits_field fun hkept hread => (fields_of_read hkept hread).1

/-- The leaves of all sections, less the levels of filters. -/
def leaves : List (SomePart Settings) :=
  loggingPart.eachInside LoggingSettings.leaves ++ modesPart.eachInside ModeSettings.leaves ++
    circuitPart.eachInside CircuitSettings.leaves ++ queuePart.eachInside QueueSettings.leaves

def filterOf (module : String) : Part Settings (Option Level) :=
  loggingPart.inside (LoggingSettings.filterOf module)

/-- A field of a section or the level of the filter of a module. -/
def HasLeaf (part : SomePart Settings) : Prop :=
  part ∈ leaves ∨ ∃ module, part = ⟨Option Level, filterOf module⟩

theorem allFit_leaves : AllFit leaves Settings.read standard := by
  have hmodes : modesPart.Fits Settings.read standard :=
    Part.fits_field fun hkept hread => (fields_of_read hkept hread).2.1
  have hcircuit : circuitPart.Fits Settings.read standard :=
    Part.fits_field fun hkept hread => (fields_of_read hkept hread).2.2.1
  have hqueue : queuePart.Fits Settings.read standard :=
    Part.fits_field fun hkept hread => (fields_of_read hkept hread).2.2.2
  exact (((LoggingSettings.allFit_leaves.eachInside fits_loggingPart).append
    (ModeSettings.allFit_leaves.eachInside hmodes)).append
    (CircuitSettings.allFit_leaves.eachInside hcircuit)).append
    (QueueSettings.allFit_leaves.eachInside hqueue)

theorem HasLeaf.fits {part : SomePart Settings} (hpart : HasLeaf part) :
    part.2.Fits Settings.read standard ∧ part.2.read.RefusesObjects := by
  rcases hpart with hpart | ⟨module, rfl⟩
  · exact allFit_leaves part hpart
  · exact ⟨fits_loggingPart.inside (LoggingSettings.fits_filterOf module),
      LoggingSettings.refusesObjects_filterOf module⟩

end Settings

end Plugboard
