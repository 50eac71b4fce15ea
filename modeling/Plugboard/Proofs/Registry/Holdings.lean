import Plugboard.Proofs.Registry.Ledger

/-!
# What a history holds

An entry is live if a registration returned its handle and no operation since has removed it.
Its tags are those that it was given since.  A history alone says this, entry by entry; the
ledger of the history comes to the same entries.
-/

namespace Plugboard

variable {ρ : Type}

abbrev RegistryHistory (ρ : Type) := List (RegistryOperation ρ × RegistryReply ρ)

namespace Entry

def withTags (entry : Entry ρ) (tags : TagSet) : Entry ρ := { entry with tags }

@[simp]
theorem handle_withTags (entry : Entry ρ) (tags : TagSet) :
    (entry.withTags tags).handle = entry.handle := rfl

@[simp]
theorem tags_withTags (entry : Entry ρ) (tags : TagSet) : (entry.withTags tags).tags = tags := rfl

@[simp]
theorem withTags_withTags (entry : Entry ρ) (first second : TagSet) :
    (entry.withTags first).withTags second = entry.withTags second := rfl

@[simp]
theorem withTags_tags (entry : Entry ρ) : entry.withTags entry.tags = entry := rfl

end Entry

namespace RegistryOperation

/-- What the operation registers, if it is not refused. -/
def registration? : RegistryOperation ρ → Option (Registration ρ)
  | .register registration => some registration
  | .registerFor _ handler priority | .registerNamed _ handler priority =>
      some (.live handler priority)
  | _ => none

def removes : RegistryOperation ρ → Entry ρ → Bool
  | .remove handle, entry => entry.handle == handle
  | .removeHandler kind id, entry => entry.point == kind && entry.id == id
  | .removeGroup group, entry => entry.group == some group
  | .clearScope scope, entry => entry.scope == some scope
  | .forget kind, entry => entry.point == kind
  | .clear, _ => true
  | _, _ => false

/-- The tags that the operation leaves to the entry with a handle. -/
def retags : RegistryOperation ρ → Nat → TagSet → TagSet
  | .tag target tags, handle, set => if handle = target then set.insertAll tags else set
  | .untag target name, handle, set => if handle = target then set.remove name else set
  | _, _, set => set

/-- The tags of an entry do not matter to its removal. -/
@[simp]
theorem removes_withTags (operation : RegistryOperation ρ) (entry : Entry ρ) (tags : TagSet) :
    operation.removes (entry.withTags tags) = operation.removes entry := by
  cases operation <;> rfl

end RegistryOperation

def RegistryReply.handle? : RegistryReply ρ → Option Nat
  | .registered handle => some handle
  | _ => none

namespace RegistryHistory

def handles (history : RegistryHistory ρ) : List Nat :=
  history.filterMap fun event => event.2.handle?

/-- The tags that an entry was given since it was registered. -/
def tagsSince (handle : Nat) (later : RegistryHistory ρ) : TagSet :=
  later.foldl (fun set event => event.1.retags handle set) []

/-- The handle of the entry was returned for its registration, and nothing removed it since. -/
def Holds (history : RegistryHistory ρ) (entry : Entry ρ) : Prop :=
  ∃ earlier operation registration handle later,
    history = earlier ++ (operation, .registered handle) :: later ∧
      operation.registration? = some registration ∧
      (∀ event ∈ later, event.1.removes (registration.toEntry handle) = false) ∧
      entry = (registration.toEntry handle).withTags (tagsSince handle later)

/-- An operation registers an entry. -/
def Adds (operation : RegistryOperation ρ) (reply : RegistryReply ρ) (entry : Entry ρ) : Prop :=
  ∃ registration handle, operation.registration? = some registration ∧
    reply = .registered handle ∧ entry = registration.toEntry handle

/-- An operation does not remove an entry, and leaves it with its tags changed. -/
def Leaves (operation : RegistryOperation ρ) (before entry : Entry ρ) : Prop :=
  operation.removes before = false ∧
    before.withTags (operation.retags before.handle before.tags) = entry

variable {history : RegistryHistory ρ} {operation : RegistryOperation ρ}
  {reply : RegistryReply ρ} {entry : Entry ρ}

theorem tagsSince_concat (handle : Nat) (later : RegistryHistory ρ)
    (operation : RegistryOperation ρ) (reply : RegistryReply ρ) :
    tagsSince handle (later ++ [(operation, reply)]) =
      operation.retags handle (tagsSince handle later) := by
  rw [tagsSince, List.foldl_concat]
  rfl

theorem handles_concat (history : RegistryHistory ρ) (operation : RegistryOperation ρ)
    (reply : RegistryReply ρ) :
    handles (history ++ [(operation, reply)]) = history.handles ++ reply.handle?.toList := by
  rw [handles, List.filterMap_append]
  cases reply <;> rfl

/-- An entry is held after one more operation if that registers it or leaves it. -/
theorem holds_concat_iff : Holds (history ++ [(operation, reply)]) entry ↔
    Adds operation reply entry ∨
      ∃ before, history.Holds before ∧ Leaves operation before entry := by
  constructor
  · rintro ⟨earlier, origin, registration, handle, later, hhistory, hregistration, hkept, rfl⟩
    rcases later.eq_nil_or_concat with rfl | ⟨between, last, rfl⟩
    · -- The operation is the registration itself.
      obtain ⟨-, hevent⟩ := List.append_inj' hhistory rfl
      obtain ⟨rfl, rfl⟩ := Prod.mk.inj (List.singleton_inj.mp hevent)
      exact .inl ⟨registration, handle, hregistration, rfl, rfl⟩
    · rw [List.concat_eq_append, ← List.cons_append, ← List.append_assoc] at hhistory
      obtain ⟨hearlier, hevent⟩ := List.append_inj' hhistory rfl
      obtain rfl := List.singleton_inj.mp hevent
      rw [List.concat_eq_append] at hkept ⊢
      rw [tagsSince_concat]
      have hbetween := fun event hevent => hkept event (List.mem_append_left _ hevent)
      have hlast := hkept _ List.mem_concat_self
      right
      refine ⟨(registration.toEntry handle).withTags (tagsSince handle between),
        ⟨earlier, origin, registration, handle, between, hearlier, hregistration, hbetween, rfl⟩,
        ?_, rfl⟩
      rw [RegistryOperation.removes_withTags]
      exact hlast
  · rintro (⟨registration, handle, hregistration, rfl, rfl⟩ |
      ⟨before, ⟨earlier, origin, registration, handle, later, rfl, hregistration, hkept, rfl⟩,
        hlast, rfl⟩)
    · have hnone : ∀ event ∈ ([] : RegistryHistory ρ),
          event.1.removes (registration.toEntry handle) = false := by
        intro event hevent
        cases hevent
      exact ⟨history, operation, registration, handle, [], rfl, hregistration, hnone, rfl⟩
    · rw [RegistryOperation.removes_withTags] at hlast
      refine ⟨earlier, origin, registration, handle, later ++ [(operation, reply)], ?_,
        hregistration, ?_, ?_⟩
      · rw [List.append_assoc, List.cons_append]
      · intro event hevent
        rcases List.mem_append.mp hevent with hold | hnew
        · exact hkept event hold
        · rw [List.mem_singleton.mp hnew]
          exact hlast
      · rw [tagsSince_concat]
        rfl

end RegistryHistory

namespace Ledger

variable {ledger : Ledger ρ} {history : RegistryHistory ρ} {operation : RegistryOperation ρ}
  {reply : RegistryReply ρ} {entry : Entry ρ}

open RegistryHistory

/-- A registration adds its entry. -/
theorem mem_live_add {registration : Registration ρ} {handle : Nat}
    (hregistration : operation.registration? = some registration)
    (hkept : ∀ before, operation.removes before = false)
    (hretags : ∀ other set, operation.retags other set = set) :
    entry ∈ (ledger.add (registration.toEntry handle)).live ↔
      Adds operation (.registered handle) entry ∨
        ∃ before ∈ ledger.live, Leaves operation before entry := by
  simp [add, Adds, Leaves, hregistration, hkept, hretags, or_comm]

theorem mem_live_retag {handle : Nat} {change : TagSet → TagSet}
    (hnone : operation.registration? = none) (hkept : ∀ before, operation.removes before = false)
    (hretags : ∀ other set, operation.retags other set =
      if other = handle then change set else set) :
    entry ∈ (ledger.retag handle change).live ↔
      Adds operation reply entry ∨ ∃ before ∈ ledger.live, Leaves operation before entry := by
  have hchange (before : Entry ρ) :
      (if before.handle = handle then { before with tags := change before.tags } else before) =
        before.withTags (operation.retags before.handle before.tags) := by
    rw [hretags]
    split <;> rfl
  simp [retag, Adds, Leaves, hnone, hkept, hchange]

/-- What is struck is held no more. -/
theorem mem_live_strike {applies : Entry ρ → Bool} (hnone : operation.registration? = none)
    (hremoves : operation.removes = applies)
    (hretags : ∀ other set, operation.retags other set = set) :
    entry ∈ (ledger.strike applies).live ↔
      Adds operation reply entry ∨ ∃ before ∈ ledger.live, Leaves operation before entry := by
  simp [strike, Adds, Leaves, hnone, hremoves, hretags]

/-- An operation that registers nothing, also because it was refused, and that removes
nothing and changes no tags leaves everything as it is. -/
theorem mem_live_same (hnone : operation.registration? = none ∨ reply.handle? = none)
    (hkept : ∀ before, operation.removes before = false)
    (hretags : ∀ other set, operation.retags other set = set) :
    entry ∈ ledger.live ↔
      Adds operation reply entry ∨ ∃ before ∈ ledger.live, Leaves operation before entry := by
  have hadds : ¬ Adds operation reply entry := by
    rintro ⟨registration, handle, hregistration, rfl, -⟩
    rcases hnone with hnone | hnone
    · rw [hnone] at hregistration
      cases hregistration
    · cases hnone
  simp [hadds, Leaves, hkept, hretags]

/-- Following an operation adds what it registers and keeps what it leaves. -/
theorem mem_live_follow : entry ∈ (ledger.follow operation reply).live ↔
    Adds operation reply entry ∨ ∃ before ∈ ledger.live, Leaves operation before entry := by
  cases operation with
  | register _ | registerFor _ _ _ | registerNamed _ _ _ =>
      cases reply with
      | registered handle => exact mem_live_add rfl (fun _ => rfl) (fun _ _ => rfl)
      | done | removed _ | view _ | refused _ =>
          exact mem_live_same (.inr rfl) (fun _ => rfl) (fun _ _ => rfl)
  | tag _ _ | untag _ _ => exact mem_live_retag rfl (fun _ => rfl) (fun _ _ => rfl)
  | remove _ | removeHandler _ _ | removeGroup _ | clearScope _ | forget _ =>
      exact mem_live_strike rfl rfl (fun _ _ => rfl)
  | clear => simp [follow, Ledger.empty, Adds, Leaves, RegistryOperation.registration?,
      RegistryOperation.removes]
  | declare _ | view _ | disableTag _ | enableTag _ | disableGroup _ | enableGroup _ =>
      exact mem_live_same (.inl rfl) (fun _ => rfl) (fun _ _ => rfl)

theorem replay_concat (ledger : Ledger ρ) (history : RegistryHistory ρ)
    (operation : RegistryOperation ρ) (reply : RegistryReply ρ) :
    ledger.replay (history ++ [(operation, reply)]) =
      (ledger.replay history).follow operation reply :=
  List.foldl_concat ..

/-- The live entries of a ledger are those that its history holds. -/
theorem mem_live_replay (history : RegistryHistory ρ) (entry : Entry ρ) :
    entry ∈ (Ledger.empty.replay history).live ↔ history.Holds entry := by
  induction history using List.reverseRecOn generalizing entry with
  | nil =>
      constructor
      · intro hentry
        cases hentry
      · rintro ⟨earlier, operation, registration, handle, later, hhistory, -⟩
        exact absurd hhistory.symm (List.append_ne_nil_of_right_ne_nil _ (List.cons_ne_nil _ _))
  | append_singleton history event ih =>
      obtain ⟨operation, reply⟩ := event
      rw [replay_concat, mem_live_follow, holds_concat_iff]
      simp only [ih]

end Ledger
end Plugboard
