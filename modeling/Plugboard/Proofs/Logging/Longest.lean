import Mathlib.Data.Finset.Max
import Mathlib.Data.List.Sort
import Mathlib.Data.String.Basic
import Plugboard.Proofs.Logging.Spelling

/-!
# The longest name decides

The filters of the settings may speak of modules inside one another, with levels that contradict
each other.  The rules of a log filter are kept by the length of their targets, so of all filters
whose name an event's target starts with the longest one decides, and the base level decides where
there is none.
-/

namespace Plugboard

/-! ## The order of the directives -/

namespace LoggingBuilder

/-- The module of one filter comes no later than that of another. -/
def NoLater (first second : String × Level) : Prop := first.1 ≤ second.1

instance : DecidableRel NoLater := fun first second =>
  inferInstanceAs (Decidable (first.1 ≤ second.1))

instance : Std.Total NoLater := ⟨fun first second => le_total first.1 second.1⟩

instance : IsTrans (String × Level) NoLater := ⟨fun _ _ _ => le_trans⟩

/-- Filters are inserted as into any sorted list. -/
theorem insertFilter_eq_orderedInsert (filter : String × Level) (filters : List (String × Level)) :
    insertFilter filter filters = filters.orderedInsert NoLater filter := by
  induction filters with
  | nil => rfl
  | cons other rest ih =>
      rw [insertFilter, List.orderedInsert_cons]
      by_cases hlater : other.1 < filter.1
      · have hnot : ¬ NoLater filter other := not_le_of_gt hlater
        rw [if_pos hlater, if_neg hnot, ih]
      · have hnoLater : NoLater filter other := le_of_not_gt hlater
        rw [if_neg hlater, if_pos hnoLater]

def inOrder (filters : List (String × Level)) : List (String × Level) :=
  filters.insertionSort NoLater

theorem ofSettings_directives (settings : LoggingSettings) :
    (ofSettings settings).directives = (inOrder settings.filters).map directiveText := by
  have hinsert : insertFilter = List.orderedInsert NoLater := by
    funext filter filters
    exact insertFilter_eq_orderedInsert filter filters
  rw [ofSettings, inOrder, List.insertionSort, hinsert]

theorem inOrder_perm (filters : List (String × Level)) : (inOrder filters).Perm filters :=
  List.perm_insertionSort NoLater filters

theorem nodup_inOrder {filters : List (String × Level)} (hnames : (filters.map Prod.fst).Nodup) :
    ((inOrder filters).map Prod.fst).Nodup :=
  ((inOrder_perm filters).map Prod.fst).nodup_iff.mpr hnames

/-- Filters of different modules are in a strict order. -/
theorem inOrder_ascending {filters : List (String × Level)}
    (hnames : (filters.map Prod.fst).Nodup) :
    (inOrder filters).Pairwise fun first second => first.1 < second.1 := by
  have hnoLater := List.pairwise_insertionSort NoLater filters
  have hdiffer := List.pairwise_map.mp (nodup_inOrder hnames)
  exact (hnoLater.and hdiffer).imp fun hboth => lt_of_le_of_ne hboth.1 hboth.2

/-- However the filters are listed, they end in one order. -/
theorem inOrder_eq_of_perm {filters others : List (String × Level)}
    (hnames : (filters.map Prod.fst).Nodup) (hperm : others.Perm filters) :
    inOrder others = inOrder filters := by
  have hsame : (inOrder others).Perm (inOrder filters) :=
    ((inOrder_perm others).trans hperm).trans (inOrder_perm filters).symm
  refine hsame.eq_of_pairwise (fun first second hfirst hsecond hle hge => ?_)
    (List.pairwise_insertionSort NoLater others) (List.pairwise_insertionSort NoLater filters)
  have hmem : first ∈ inOrder filters := hsame.mem_iff.mp hfirst
  exact List.inj_on_of_nodup_map (nodup_inOrder hnames) hmem hsecond (le_antisymm hle hge)

end LoggingBuilder

/-! ## The order of the rules -/

namespace LogDirective

/-- How far a target reaches; nothing reaches less far than a directive for all targets. -/
def reach (directive : LogDirective) : Nat :=
  match directive.target with
  | none => 0
  | some beginning => beginning.utf8ByteSize + 1

/-- Targets are compared by how far they reach. -/
theorem compare_targets (left right : LogDirective) :
    compare (left.target.map String.utf8ByteSize) (right.target.map String.utf8ByteSize) =
      compare left.reach right.reach := by
  rw [reach, reach]
  cases left.target with
  | none =>
      cases right.target with
      | none => rfl
      | some ending => exact (Nat.compare_eq_lt.mpr (Nat.succ_pos _)).symm
  | some beginning =>
      cases right.target with
      | none => exact (Nat.compare_eq_gt.mpr (Nat.succ_pos _)).symm
      | some ending =>
          change compare beginning.utf8ByteSize ending.utf8ByteSize = _
          simp only [Nat.compare_eq_ite_lt]
          grind

theorem reach_le_of_specificity_gt {left right : LogDirective}
    (hmore : left.specificity right = .gt) : right.reach ≤ left.reach := by
  simp only [specificity, compare_targets, Ordering.then_eq_gt, Ordering.then_eq_eq,
    Nat.compare_eq_gt, Nat.compare_eq_eq] at hmore
  omega

theorem reach_le_of_specificity_lt {left right : LogDirective}
    (hless : left.specificity right = .lt) : left.reach ≤ right.reach := by
  simp only [specificity, compare_targets, Ordering.then_eq_lt, Ordering.then_eq_eq,
    Nat.compare_eq_lt, Nat.compare_eq_eq] at hless
  omega

theorem target_eq_of_specificity_eq {left right : LogDirective}
    (hsame : left.specificity right = .eq) : left.target = right.target := by
  simp only [specificity, Ordering.then_eq_eq] at hsame
  exact Std.LawfulEqCmp.eq_of_compare hsame.1.2

theorem reach_eq_of_target_eq {left right : LogDirective} (hsame : left.target = right.target) :
    left.reach = right.reach := by
  rw [reach, reach, hsame]

end LogDirective

namespace LogFilter

/-- The rules stand in an order in which no later one reaches further. -/
def Descending (rules : List LogDirective) : Prop :=
  rules.Pairwise fun first second => second.reach ≤ first.reach

theorem mem_insertRule {directive rule : LogDirective} {rules : List LogDirective}
    (hrule : rule ∈ insertRule directive rules) : rule = directive ∨ rule ∈ rules := by
  induction rules with
  | nil => exact .inl (List.mem_singleton.mp hrule)
  | cons other rest ih =>
      rw [insertRule] at hrule
      split at hrule
      · exact List.mem_cons.mp hrule
      · rcases List.mem_cons.mp hrule with rfl | hrule
        · exact .inl rfl
        · exact .inr (List.mem_cons_of_mem _ hrule)
      · rcases List.mem_cons.mp hrule with rfl | hrule
        · exact .inr List.mem_cons_self
        · exact (ih hrule).imp_right (List.mem_cons_of_mem _)

/-- A rule is inserted where no later one reaches further. -/
theorem Descending.insertRule {rules : List LogDirective} (hrules : Descending rules)
    (directive : LogDirective) : Descending (insertRule directive rules) := by
  induction rules with
  | nil => exact List.pairwise_singleton _ _
  | cons other rest ih =>
      obtain ⟨hother, hrest⟩ := List.pairwise_cons.mp hrules
      rw [LogFilter.insertRule]
      split
      next hmore =>
        have hle := LogDirective.reach_le_of_specificity_gt hmore
        refine List.pairwise_cons.mpr ⟨fun rule hrule => ?_, hrules⟩
        rcases List.mem_cons.mp hrule with rfl | hrule
        · exact hle
        · exact (hother rule hrule).trans hle
      next hsame =>
        have heq := LogDirective.reach_eq_of_target_eq
          (LogDirective.target_eq_of_specificity_eq hsame)
        exact List.pairwise_cons.mpr ⟨fun rule hrule => heq ▸ hother rule hrule, hrest⟩
      next hless =>
        refine List.pairwise_cons.mpr ⟨fun rule hrule => ?_, ih hrest⟩
        rcases mem_insertRule hrule with rfl | hrule
        · exact LogDirective.reach_le_of_specificity_lt hless
        · exact hother rule hrule

/-- Where no rule has its target, a directive is put among the rules and replaces none. -/
theorem insertRule_perm {directive : LogDirective} {rules : List LogDirective}
    (hnew : ∀ rule ∈ rules, rule.target ≠ directive.target) :
    (insertRule directive rules).Perm (directive :: rules) := by
  induction rules with
  | nil => exact .refl _
  | cons other rest ih =>
      obtain ⟨hother, hrest⟩ := List.forall_mem_cons.mp hnew
      rw [insertRule]
      split
      next => exact .refl _
      next hsame => exact absurd (LogDirective.target_eq_of_specificity_eq hsame).symm hother
      next => exact ((ih hrest).cons other).trans (.swap directive other rest)

theorem descending_foldl {directives : List LogDirective}
    (hevents : ∀ directive ∈ directives, directive.speaksOfEvents = true) {filter : LogFilter}
    (hrules : Descending filter.rules) : Descending (directives.foldl add filter).rules := by
  induction directives generalizing filter with
  | nil => exact hrules
  | cons directive rest ih =>
      obtain ⟨hdirective, hrest⟩ := List.forall_mem_cons.mp hevents
      rw [List.foldl_cons, add, if_pos hdirective]
      exact ih hrest (hrules.insertRule directive)

/-- Where all targets differ each directive becomes a rule, and none is replaced. -/
theorem perm_foldl {directives : List LogDirective}
    (hevents : ∀ directive ∈ directives, directive.speaksOfEvents = true) {filter : LogFilter}
    (htargets : ((directives ++ filter.rules).map LogDirective.target).Nodup) :
    (directives.foldl add filter).rules.Perm (directives ++ filter.rules) := by
  induction directives generalizing filter with
  | nil => exact .refl _
  | cons directive rest ih =>
      obtain ⟨hdirective, hrest⟩ := List.forall_mem_cons.mp hevents
      rw [List.foldl_cons, add, if_pos hdirective]
      -- All targets differ, so the directive takes no rule's place.
      have hnew : ∀ rule ∈ filter.rules, rule.target ≠ directive.target := by
        intro rule hrule hsame
        rw [List.cons_append, List.map_cons, List.nodup_cons] at htargets
        exact htargets.1 (List.mem_map.mpr ⟨rule, List.mem_append_right _ hrule, hsame⟩)
      have hinsert : (rest ++ insertRule directive filter.rules).Perm
          (directive :: (rest ++ filter.rules)) :=
        ((insertRule_perm hnew).append_left rest).trans List.perm_middle
      exact (ih hrest ((hinsert.map _).nodup_iff.mpr htargets)).trans hinsert

/-- Of the rules in order the one that reaches furthest is found first. -/
theorem find?_eq_some_of_furthest {rules : List LogDirective} (hrules : Descending rules)
    {applies : LogDirective → Bool} {rule : LogDirective} (hrule : rule ∈ rules)
    (happlies : applies rule = true)
    (hfurthest : ∀ other ∈ rules, applies other = true → rule.reach ≤ other.reach →
      other = rule) : rules.find? applies = some rule := by
  obtain ⟨first, hfirst⟩ := Option.isSome_iff_exists.mp
    (List.find?_isSome.mpr ⟨rule, hrule, happlies⟩)
  obtain ⟨hfirstApplies, before, after, rfl, hbefore⟩ := List.find?_eq_some_iff_append.mp hfirst
  have hreach : rule.reach ≤ first.reach := by
    rcases List.mem_append.mp hrule with hrule | hrule
    · have hnot := hbefore rule hrule
      rw [happlies] at hnot
      cases hnot
    · rcases List.mem_cons.mp hrule with rfl | hrule
      · exact Nat.le_refl _
      · have hrules := (List.pairwise_append.mp hrules).2.1
        exact (List.pairwise_cons.mp hrules).1 rule hrule
  rw [hfirst, hfurthest first (List.mem_append_right _ List.mem_cons_self) hfirstApplies hreach]

end LogFilter

/-! ## The level that counts for a target -/

/-- The level that counts for a target: that of the filter with the longest name among those that
the target starts with, or the base level if it starts with none. -/
inductive LoggingSettings.Governs (settings : LoggingSettings) (target : String) :
    Level → Prop where
  | filter {name : String} {level : Level} (hfilter : (name, level) ∈ settings.filters)
      (hstarts : name.toList <+: target.toList)
      (hlongest : ∀ other ∈ settings.filters, other.1.toList <+: target.toList →
        other.1.length ≤ name.length) : settings.Governs target level
  | base (hnone : ∀ filter ∈ settings.filters, ¬ filter.1.toList <+: target.toList) :
      settings.Governs target settings.level

/-- For every target some level counts. -/
theorem LoggingSettings.exists_governs (settings : LoggingSettings) (target : String) :
    ∃ governing, settings.Governs target governing := by
  by_cases hsome : ∃ filter ∈ settings.filters, filter.1.toList <+: target.toList
  · obtain ⟨filter, hfilter, hstarts⟩ := hsome
    let starting := (settings.filters.filter fun filter =>
      filter.1.toList.isPrefixOf target.toList).toFinset
    have hmem (filter : String × Level) : filter ∈ starting ↔
        filter ∈ settings.filters ∧ filter.1.toList <+: target.toList := by
      rw [List.mem_toFinset, List.mem_filter, List.isPrefixOf_iff_prefix]
    obtain ⟨⟨name, level⟩, hlongest, hmax⟩ := starting.exists_max_image
      (fun filter => filter.1.length) ⟨filter, (hmem filter).mpr ⟨hfilter, hstarts⟩⟩
    have ⟨hname, hprefix⟩ := (hmem _).mp hlongest
    exact ⟨level, .filter hname hprefix fun other hother hstarts =>
      hmax other ((hmem other).mpr ⟨hother, hstarts⟩)⟩
  · exact ⟨settings.level, .base fun filter hfilter hstarts => hsome ⟨filter, hfilter, hstarts⟩⟩

namespace LogDirective

/-- A filter covers the targets that start with its module. -/
theorem coversEvent_ofFilter {filter : String × Level} {target : String} {fields : List String} :
    (ofFilter filter).coversEvent target fields = true ↔ filter.1.toList <+: target.toList := by
  simp [ofFilter, coversEvent, coversTarget, coversFields]

/-- Of two names that a text starts with, one that is no longer and yet takes no fewer bytes is the
other. -/
theorem eq_of_reach_le {first second : String × Level} {target : String}
    (hfirst : first.1.toList <+: target.toList) (hsecond : second.1.toList <+: target.toList)
    (hlonger : second.1.length ≤ first.1.length)
    (hreach : (ofFilter first).reach ≤ (ofFilter second).reach) : second.1 = first.1 := by
  obtain ⟨rest, hrest⟩ := List.prefix_of_prefix_length_le hsecond hfirst hlonger
  have hfirst : first.1 = second.1 ++ String.ofList rest := by
    rw [← String.toList_inj, String.toList_append, String.toList_ofList, hrest]
  have hsizes : (second.1 ++ String.ofList rest).utf8ByteSize ≤ second.1.utf8ByteSize := by
    rw [← hfirst]
    exact Nat.le_of_succ_le_succ hreach
  rw [String.utf8ByteSize_append] at hsizes
  have hrest : String.ofList rest = "" := by
    rw [← String.utf8ByteSize_eq_zero_iff]
    omega
  rw [hfirst, hrest, String.append_empty]

end LogDirective

namespace LoggingBuilder

open LogDirective (ofFilter)

variable {settings : LoggingSettings} (hnames : (settings.filters.map Prod.fst).Nodup)
  (hpaths : ∀ filter ∈ settings.filters, Text.IsModulePath filter.1)

include hpaths in
theorem filterMap_parse?_directives :
    (ofSettings settings).directives.filterMap LogDirective.parse? =
      (inOrder settings.filters).map ofFilter := by
  have hparse : ∀ filter ∈ inOrder settings.filters,
      (LogDirective.parse? ∘ directiveText) filter = (some ∘ ofFilter) filter := by
    intro filter hfilter
    have hfilter := (inOrder_perm settings.filters).mem_iff.mp hfilter
    rw [Function.comp_apply, LogDirective.parse?_directiveText (hpaths filter hfilter).isTarget,
      Function.comp_apply]
  rw [ofSettings_directives, List.filterMap_map, ← List.filterMap_eq_map]
  exact List.filterMap_congr hparse

include hpaths in
theorem filter_ofSettings : (ofSettings settings).filter none =
    ((inOrder settings.filters).map ofFilter).foldl LogFilter.add
      (LogFilter.ofDirectives [.ofVerbosity settings.level.rank]) := by
  rw [filter, filterMap_parse?_directives hpaths]
  rfl

theorem speaksOfEvents_ofFilter {filters : List (String × Level)} :
    ∀ directive ∈ filters.map ofFilter, directive.speaksOfEvents = true := by
  intro directive hdirective
  obtain ⟨filter, -, rfl⟩ := List.mem_map.mp hdirective
  rfl

include hpaths in
theorem descending_rules : LogFilter.Descending ((ofSettings settings).filter none).rules := by
  rw [filter_ofSettings hpaths]
  exact LogFilter.descending_foldl speaksOfEvents_ofFilter (List.pairwise_singleton _ _)

include hnames hpaths in
/-- The rules are those of the filters, each kept, and the base level. -/
theorem mem_rules {rule : LogDirective} : rule ∈ ((ofSettings settings).filter none).rules ↔
    (∃ filter ∈ settings.filters, ofFilter filter = rule) ∨
      rule = .ofVerbosity settings.level.rank := by
  have htargets : (((inOrder settings.filters).map ofFilter ++
      [LogDirective.ofVerbosity settings.level.rank]).map LogDirective.target).Nodup := by
    -- The base rule has no target; each of the others has the name of its filter.
    rw [List.map_append, List.map_map, List.nodup_append]
    have hsome : ((inOrder settings.filters).map Prod.fst).map some =
        (inOrder settings.filters).map (LogDirective.target ∘ ofFilter) := by
      rw [List.map_map]
      rfl
    refine ⟨?_, List.nodup_singleton _, ?_⟩
    · rw [← hsome]
      exact (nodup_inOrder hnames).map (Option.some_injective _)
    · intro first hfirst second hsecond
      obtain ⟨filter, -, rfl⟩ := List.mem_map.mp hfirst
      rw [List.mem_singleton.mp hsecond]
      exact Option.some_ne_none _
  rw [filter_ofSettings hpaths, (LogFilter.perm_foldl speaksOfEvents_ofFilter htargets).mem_iff,
    List.mem_append, List.mem_map]
  refine or_congr ?_ List.mem_singleton
  simp only [(inOrder_perm settings.filters).mem_iff]

include hnames hpaths in
/-- The rule that decides for a target has the level that counts for it. -/
theorem find?_rule_of_governs {target : String} {governing : Level}
    (hgoverns : settings.Governs target governing) (fields : List String) :
    ∃ rule, ((ofSettings settings).filter none).rules.find?
      (fun rule => rule.coversEvent target fields) = some rule ∧
        rule.verbosity = governing.rank := by
  have hrules := descending_rules hpaths
  cases hgoverns with
  | @filter name _ hfilter hstarts hlongest =>
      refine ⟨ofFilter (name, governing), LogFilter.find?_eq_some_of_furthest hrules
        ((mem_rules hnames hpaths).mpr (.inl ⟨_, hfilter, rfl⟩))
        (LogDirective.coversEvent_ofFilter.mpr hstarts) ?_, rfl⟩
      intro other hother hcovers hreach
      obtain ⟨⟨second, level⟩, hsecond, rfl⟩ | rfl := (mem_rules hnames hpaths).mp hother
      · have hprefix := LogDirective.coversEvent_ofFilter.mp hcovers
        have hname := LogDirective.eq_of_reach_le hstarts hprefix
          (hlongest _ hsecond hprefix) hreach
        exact congrArg ofFilter (List.inj_on_of_nodup_map hnames hsecond hfilter hname)
      · exact absurd hreach (Nat.not_succ_le_zero _)
  | base hnone =>
      refine ⟨.ofVerbosity settings.level.rank, LogFilter.find?_eq_some_of_furthest hrules
        ((mem_rules hnames hpaths).mpr (.inr rfl)) rfl ?_, rfl⟩
      intro other hother hcovers _
      obtain ⟨filter, hfilter, rfl⟩ | rfl := (mem_rules hnames hpaths).mp hother
      · exact absurd (LogDirective.coversEvent_ofFilter.mp hcovers) (hnone filter hfilter)
      · rfl

end LoggingBuilder

open LoggingBuilder in
/-- Settings whose filters speak of modules, each of its own, make a builder with the base level
and one directive for each filter in the order of their modules, however the filters are listed.
The filter installed from it, with nothing asked for by the environment, lets an event through if
its level is within the level that counts for its target. -/
theorem LoggingSettings.longest_filter_decides (settings : LoggingSettings)
    (hnames : (settings.filters.map Prod.fst).Nodup)
    (hpaths : ∀ filter ∈ settings.filters, Text.IsModulePath filter.1) :
    (∃ ordered : List (String × Level), ordered.Perm settings.filters ∧
      (ordered.Pairwise fun first second => first.1 < second.1) ∧
      (ofSettings settings).allDirectives =
        settings.level.name :: ordered.map fun filter => filter.1 ++ "=" ++ filter.2.name) ∧
    (∀ filters : List (String × Level), filters.Perm settings.filters →
      ofSettings { settings with filters } = ofSettings settings) ∧
    ∀ target, ∃ governing, (∀ level, settings.Governs target level ↔ level = governing) ∧
      ∀ level fields, ((ofSettings settings).filter none).enables target level fields = true ↔
        level.rank ≤ governing.rank := by
  refine ⟨⟨inOrder settings.filters, inOrder_perm _, inOrder_ascending hnames, ?directives⟩,
    fun filters hperm => ?listing, fun target => ?enabled⟩
  case directives =>
    rw [allDirectives, ofSettings_directives]
    rfl
  case listing =>
    have hdirectives : (ofSettings { settings with filters }).directives =
        (ofSettings settings).directives := by
      rw [ofSettings_directives, ofSettings_directives, inOrder_eq_of_perm hnames hperm]
    simp only [ofSettings, LoggingBuilder.mk.injEq, true_and, and_true]
    exact hdirectives
  case enabled =>
    have henables {governing : Level} (hgoverns : settings.Governs target governing)
        (level : Level) (fields : List String) :
        ((ofSettings settings).filter none).enables target level fields = true ↔
          level.rank ≤ governing.rank := by
      obtain ⟨rule, hrule, hverbosity⟩ := find?_rule_of_governs hnames hpaths hgoverns fields
      rw [LogFilter.enables, hrule, LogFilter.decides, decide_eq_true_iff, hverbosity]
    obtain ⟨governing, hgoverns⟩ := settings.exists_governs target
    refine ⟨governing, fun level => ⟨fun hlevel => ?_, ?_⟩, henables hgoverns⟩
    · have hsame (other : Level) : other.rank ≤ level.rank ↔ other.rank ≤ governing.rank :=
        (henables hlevel other []).symm.trans (henables hgoverns other [])
      have hrank : level.rank = governing.rank :=
        Nat.le_antisymm ((hsame level).mp (Nat.le_refl _)) ((hsame governing).mpr (Nat.le_refl _))
      revert hrank
      cases level <;> cases governing <;> decide
    · rintro rfl
      exact hgoverns

/-- Settings with filters for a module, for one inside it, and for one whose name only starts like
it, each with a level of its own. -/
def LoggingSettings.nested : LoggingSettings :=
  { LoggingSettings.standard with
    filters := [("app::db", .trace), ("app", .warn), ("application", .error)] }

theorem LoggingSettings.isModulePath_of_mem_nested :
    ∀ filter ∈ nested.filters, Text.IsModulePath filter.1 := by
  have hletters {package : List Char} (hall : package.all Text.isAlphanumeric = true) :
      ∀ c ∈ package, Text.isAlphanumeric c = true ∨ c = '_' :=
    fun c hc => .inl (List.all_eq_true.mp hall c hc)
  rw [nested, List.forall_mem_cons, List.forall_mem_cons, List.forall_mem_singleton]
  refine ⟨⟨['a', 'p', 'p'], [['d', 'b']], by decide, by decide, hletters (by decide), ?_⟩,
    ⟨['a', 'p', 'p'], [], by decide, by decide, hletters (by decide), by simp⟩,
    ⟨"application".toList, [], by decide, by decide, hletters (by decide), by simp⟩⟩
  rw [List.forall_mem_singleton]
  exact ⟨'d', ['b'], rfl, by decide, List.forall_mem_singleton.mpr (by decide)⟩

theorem LoggingSettings.longest_filter_decides_of_nested :
    (nested.filters.map Prod.fst).Nodup ∧
      (∀ filter ∈ nested.filters, Text.IsModulePath filter.1) ∧
      ∀ fields,
        ((LoggingBuilder.ofSettings nested).filter none).enables "app::db::pool" .debug fields =
          true ∧
        ((LoggingBuilder.ofSettings nested).filter none).enables "app::web" .info fields = false ∧
        ((LoggingBuilder.ofSettings nested).filter none).enables "other" .info fields = true := by
  have hnames : (nested.filters.map Prod.fst).Nodup := by decide
  obtain ⟨-, -, hdecides⟩ := nested.longest_filter_decides hnames isModulePath_of_mem_nested
  have hlevel {target : String} {governing : Level} (hgoverns : nested.Governs target governing)
      (level : Level) (fields : List String) :
      ((LoggingBuilder.ofSettings nested).filter none).enables target level fields = true ↔
        level.rank ≤ governing.rank := by
    obtain ⟨other, hsame, henables⟩ := hdecides target
    rw [(hsame governing).mp hgoverns]
    exact henables level fields
  have hpool : nested.Governs "app::db::pool" .trace :=
    .filter List.mem_cons_self (by decide) (by decide)
  have hweb : nested.Governs "app::web" .warn :=
    .filter (List.mem_cons_of_mem _ List.mem_cons_self) (by decide) (by decide)
  have hother : nested.Governs "other" .info := .base (by decide)
  refine ⟨hnames, isModulePath_of_mem_nested, fun fields => ⟨?_, ?_, ?_⟩⟩
  · exact (hlevel hpool _ fields).mpr (by decide)
  · exact Bool.eq_false_iff.mpr (mt (hlevel hweb _ fields).mp (by decide))
  · exact (hlevel hother _ fields).mpr (by decide)

end Plugboard
