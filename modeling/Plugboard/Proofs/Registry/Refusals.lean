import Plugboard.Proofs.Registry.Handles

/-!
# Refused operations

The name of a kind stands for the kind that was declared or registered last under it, and
nothing makes a name unknown again.  So a history says which operations a registry refuses,
and one that it refuses leaves it as it was.
-/

namespace Plugboard

variable {ρ : Type}

namespace RegistryHistory

/-- The kind that an operation makes known, if it is not refused. -/
def madeKnown? : RegistryOperation ρ × RegistryReply ρ → Option PointKind
  | (.declare kind, _) => some kind
  | (operation, .registered _) => operation.registration?.map Registration.point
  | _ => none

def known (history : RegistryHistory ρ) : List PointKind :=
  (history.filterMap madeKnown?).reverse

/-- The kind that was declared or registered last among those of one name. -/
def latest? (history : RegistryHistory ρ) (name : String) : Option PointKind :=
  history.known.find? fun kind => kind.name = name

/-- A handle was returned for an entry that nothing removed since. -/
def Lives (history : RegistryHistory ρ) (handle : Nat) : Prop :=
  ∃ entry, history.Holds entry ∧ entry.handle = handle

variable {history : RegistryHistory ρ} {name : String}

theorem known_concat (history : RegistryHistory ρ)
    (event : RegistryOperation ρ × RegistryReply ρ) :
    known (history ++ [event]) = (madeKnown? event).toList ++ history.known := by
  rw [known, List.filterMap_append, List.reverse_append]
  cases hmade : madeKnown? event <;> simp [hmade, known]

theorem latest?_concat (history : RegistryHistory ρ)
    (event : RegistryOperation ρ × RegistryReply ρ) (name : String) :
    latest? (history ++ [event]) name =
      ((madeKnown? event).filter fun kind => kind.name = name).or (history.latest? name) := by
  rw [latest?, known_concat, List.find?_append]
  cases madeKnown? event with
  | none => rfl
  | some kind => by_cases hname : kind.name = name <;> simp [hname, latest?, Option.filter]

/-- A name stands for nothing if no kind of this name is known. -/
theorem latest?_eq_none_iff :
    history.latest? name = none ↔ ∀ kind ∈ history.known, kind.name ≠ name := by
  simp [latest?]

end RegistryHistory

namespace Registry

variable {registry : Registry ρ} {history : RegistryHistory ρ}

/-! ## Names of kinds -/

/-- The names stand for what the history made known last. -/
def Knows (registry : Registry ρ) (history : RegistryHistory ρ) : Prop :=
  ∀ name, registry.declared.get? name = history.latest? name

/-- A declaration and a registration name their kind; nothing else touches the names. -/
theorem declared_perform (registry : Registry ρ) (operation : RegistryOperation ρ) :
    (registry.perform operation).2.declared =
      (RegistryHistory.madeKnown? (operation, (registry.perform operation).1)).elim
        registry.declared fun kind => registry.declared.set kind.name kind := by
  cases operation with
  | register registration => rfl
  | registerFor kind handler priority =>
      simp only [perform]
      cases haccepted : registrationFor kind handler priority with
      | ok registration =>
          rw [Mirrors.registrationFor_eq_live haccepted]
          rfl
      | error error => rfl
  | registerNamed name handler priority =>
      simp only [perform]
      cases haccepted : registry.registrationNamed name handler priority with
      | ok registration =>
          rw [Mirrors.registrationNamed_eq_live haccepted]
          rfl
      | error error => rfl
  | tag handle _ | untag handle _ =>
      simp only [perform, tag, untag, modifyEntry]
      split <;> rfl
  | remove handle =>
      simp only [perform, remove]
      split <;> rfl
  | declare _ | view _ | disableTag _ | enableTag _ | disableGroup _ | enableGroup _
  | removeHandler _ _ | removeGroup _ | clearScope _ | forget _ | clear => rfl

theorem knows_empty : (empty : Registry ρ).Knows [] := fun _ => rfl

namespace Knows

/-- An operation makes known what its reply says. -/
theorem perform (hknows : registry.Knows history) (operation : RegistryOperation ρ) :
    (registry.perform operation).2.Knows
      (history ++ [(operation, (registry.perform operation).1)]) := by
  intro name
  rw [declared_perform, RegistryHistory.latest?_concat]
  cases RegistryHistory.madeKnown? (operation, (registry.perform operation).1) with
  | none => exact hknows name
  | some kind =>
      by_cases hname : name = kind.name
      · subst hname
        simp [Option.filter, Table.get?_set_self]
      · simp [Option.filter, Table.get?_set_of_ne hname, Ne.symm hname, hknows name]

theorem performAll (hknows : registry.Knows history)
    (operations : List (RegistryOperation ρ)) :
    (registry.performAll operations).2.Knows
      (history ++ (registry.performAll operations).1) := by
  induction operations generalizing registry history with
  | nil =>
      rw [Registry.performAll, List.append_nil]
      exact hknows
  | cons operation rest ih =>
      have hrest := ih (hknows.perform operation)
      rw [List.append_assoc, List.singleton_append] at hrest
      exact hrest

end Knows

/-! ## What is refused -/

/-- A handler is registered for the kind that it accepts and refused for every other. -/
theorem reply_registerFor (registry : Registry ρ) (kind : PointKind) (handler : Handler ρ)
    (priority : Int) :
    (registry.perform (.registerFor kind handler priority)).1 =
      if handler.accepts = kind then .registered registry.nextHandle
      else .refused (.mismatch handler.id handler.accepts.name kind.name) := by
  simp only [perform, registrationFor, checkSignature]
  by_cases haccepts : handler.accepts = kind
  · simp [haccepts, insertIf, insert, forgetView, declare]
  · simp [haccepts, insertIf]

/-- Registering under a name registers for the kind that the name stands for. -/
theorem perform_registerNamed (registry : Registry ρ) (name : String) (handler : Handler ρ)
    (priority : Int) :
    registry.perform (.registerNamed name handler priority) =
      (registry.declared.get? name).elim (.refused (.undeclared name), registry) fun kind =>
        registry.perform (.registerFor kind handler priority) := by
  simp only [perform, registrationNamed]
  cases registry.declared.get? name <;> rfl

/-- An operation that is refused leaves the registry as it was. -/
theorem perform_of_refused {operation : RegistryOperation ρ} {error : RegistryError}
    (hrefused : (registry.perform operation).1 = .refused error) :
    (registry.perform operation).2 = registry := by
  have hinsert : ∀ registration, (registry.insertIf registration).1 = .refused error →
      (registry.insertIf registration).2 = registry := by
    rintro (error | registration) hreply
    · rfl
    · cases hreply
  have hchange : ∀ outcome, (registry.changeIf outcome).1 = .refused error →
      (registry.changeIf outcome).2 = registry := by
    rintro (error | changed) hreply
    · rfl
    · cases hreply
  cases operation with
  | register _ | registerFor _ _ _ | registerNamed _ _ _ => exact hinsert _ hrefused
  | tag _ _ | untag _ _ | remove _ => exact hchange _ hrefused
  | declare _ | view _ | disableTag _ | enableTag _ | disableGroup _ | enableGroup _
  | removeHandler _ _ | removeGroup _ | clearScope _ | forget _ | clear => cases hrefused

/-- An operation on the entry with a handle is done while the entry lives, and else refused. -/
structure AsksFor (registry : Registry ρ) (history : RegistryHistory ρ) (handle : Nat)
    (operation : RegistryOperation ρ) : Prop where
  done : (registry.perform operation).1 = .done ↔ history.Lives handle
  refused : (registry.perform operation).1 = .refused (.unknownEntry handle) ↔
    ¬ history.Lives handle

theorem Accounts.exists_entry?_iff (haccounts : registry.Accounts history) (handle : Nat) :
    (∃ entry, registry.entry? handle = some entry) ↔ history.Lives handle := by
  simp only [haccounts.entry?_eq_some_iff, RegistryHistory.Lives]

/-- What changes the entry with a handle is refused where there is none. -/
theorem Changes.asksFor {handle : Nat} {change : Entry ρ → Option (Entry ρ)}
    {outcome : Except RegistryError (Registry ρ)} {operation : RegistryOperation ρ}
    (hchanges : registry.Changes handle change outcome)
    (hperform : registry.perform operation = registry.changeIf outcome)
    (haccounts : registry.Accounts history) : registry.AsksFor history handle operation := by
  have hlives := haccounts.exists_entry?_iff handle
  cases hfound : registry.entry? handle with
  | none =>
      have hgone : ¬ history.Lives handle := by
        rw [← hlives, hfound]
        rintro ⟨entry, hentry⟩
        cases hentry
      have hreply : (registry.perform operation).1 = .refused (.unknownEntry handle) := by
        rw [hperform, hchanges.refused hfound, changeIf]
      exact ⟨by simp [hreply, hgone], by simp [hreply, hgone]⟩
  | some entry =>
      have hlive : history.Lives handle := hlives.mp ⟨entry, hfound⟩
      obtain ⟨after, houtcome, -⟩ := hchanges.accepted entry hfound
      have hreply : (registry.perform operation).1 = .done := by
        rw [hperform, houtcome, changeIf]
      exact ⟨by simp [hreply, hlive], by simp [hreply, hlive]⟩

/-- After any run of a new registry, a handler is refused under a name as undeclared if and
only if no kind of that name was ever declared or registered, as a mismatch if and only if the
kind of that name that was declared or registered last is not the one it accepts, and is
registered otherwise.  For a given kind it is refused if and only if it does not accept it.
Tagging, untagging and removing are refused if and only if the handle belongs to no live
entry.  An operation that is refused, whichever it is, leaves the registry as it was, so
whatever is done later is replied to as if it had not been asked. -/
theorem refusals_follow_history (operations : List (RegistryOperation ρ)) :
    let history : RegistryHistory ρ := ((empty : Registry ρ).performAll operations).1
    let registry := ((empty : Registry ρ).performAll operations).2
    (∀ name handler priority,
      let reply := (registry.perform (.registerNamed name handler priority)).1
      (reply = .refused (.undeclared name) ↔ ∀ kind ∈ history.known, kind.name ≠ name) ∧
        (reply = .refused (.mismatch handler.id handler.accepts.name name) ↔
          ∃ kind, history.latest? name = some kind ∧ kind ≠ handler.accepts) ∧
        (reply = .registered registry.nextHandle ↔
          history.latest? name = some handler.accepts)) ∧
      (∀ kind handler priority,
        let reply := (registry.perform (.registerFor kind handler priority)).1
        (reply = .refused (.mismatch handler.id handler.accepts.name kind.name) ↔
            handler.accepts ≠ kind) ∧
          (reply = .registered registry.nextHandle ↔ handler.accepts = kind)) ∧
      (∀ handle tags, registry.AsksFor history handle (.tag handle tags)) ∧
      (∀ handle tag, registry.AsksFor history handle (.untag handle tag)) ∧
      (∀ handle, registry.AsksFor history handle (.remove handle)) ∧
      ∀ operation error later, (registry.perform operation).1 = .refused error →
        (registry.perform operation).2 = registry ∧
          registry.performAll (operation :: later) =
            ((operation, .refused error) :: (registry.performAll later).1,
              (registry.performAll later).2) := by
  intro history registry
  have haccounts : registry.Accounts history := accounts_empty.performAll operations
  have hknows : registry.Knows history := knows_empty.performAll operations
  have hmirrors := haccounts.mirrors
  refine ⟨?named, ?given, ?tag, ?untag, ?remove, ?later⟩
  case named =>
    intro name handler priority
    dsimp only
    rw [perform_registerNamed, hknows name, ← RegistryHistory.latest?_eq_none_iff]
    cases hlatest : history.latest? name with
    | none => simp
    | some kind =>
        have hname : kind.name = name := by simpa using List.find?_some hlatest
        rw [Option.elim_some, reply_registerFor]
        by_cases haccepts : handler.accepts = kind
        · simp [haccepts]
        · simp [haccepts, hname, Ne.symm haccepts]
  case given =>
    intro kind handler priority
    dsimp only
    rw [reply_registerFor]
    by_cases haccepts : handler.accepts = kind <;> simp [haccepts]
  case tag =>
    intro handle tags
    exact (hmirrors.changes_modifyEntry handle fun set => set.insertAll tags).asksFor rfl haccounts
  case untag =>
    intro handle tag
    exact (hmirrors.changes_modifyEntry handle fun set => set.remove tag).asksFor rfl haccounts
  case remove =>
    intro handle
    exact (hmirrors.changes_remove handle).asksFor rfl haccounts
  case later =>
    intro operation error later hrefused
    have hsame := perform_of_refused hrefused
    refine ⟨hsame, ?_⟩
    rw [performAll, hrefused, hsame]

end Registry
end Plugboard
