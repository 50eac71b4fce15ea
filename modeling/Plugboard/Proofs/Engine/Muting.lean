import Plugboard.Proofs.Data.Table
import Plugboard.Proofs.Engine.Written

/-!
# Muting in scopes

Scopes and calls share one muted set.  A scope mutes the ids that are not muted yet, and where it
ends it unmutes these, whoever asked for them in the meantime.  So the last call on an id decides
whether it is muted in the end, unless that call was a mute made while a scope was open that had
muted the id itself: such a mute is gone when the scope ends.
-/

namespace Plugboard

open Engine

/-! ## Calls on an id -/

def Deed.callsOn (id : HandlerId) : Deed → Bool
  | .mute named | .unmute named => named == id
  | _ => false

/-- An id is muted after a deed as the deed says, or else as before. -/
theorem Deed.mem_onMuted {id : HandlerId} {deed : Deed} {muted : Bag HandlerId} :
    id ∈ deed.onMuted muted ↔ if deed.callsOn id then deed = .mute id else id ∈ muted := by
  cases deed with
  | mute named | unmute named =>
      by_cases hnamed : named = id
      · simp [onMuted, callsOn, hnamed]
      · simp [onMuted, callsOn, hnamed, Ne.symm hnamed]
  | silenceOn | resume | operation performed | other => exact Iff.rfl

/-- The scope muted the id when it was opened. -/
def OpenScope.Muted (id : HandlerId) : OpenScope → Prop
  | .muted added => id ∈ added
  | .silence => False

/-- A scope is open that muted the id. -/
def Moment.Scoped (id : HandlerId) (moment : Moment) : Prop :=
  ∃ scope ∈ moment.scopes, scope.Muted id

/-- The id is muted by a call, and no scope is open that muted it before. -/
def Moment.MutesForGood (id : HandlerId) (moment : Moment) : Prop :=
  moment.deed = .mute id ∧ ¬ moment.Scoped id

theorem Moment.scoped_within {id : HandlerId} {scope : OpenScope} {moment : Moment} :
    (moment.within scope).Scoped id ↔ moment.Scoped id ∨ scope.Muted id := by
  simp [Scoped, within, or_and_right, exists_or]

/-- A scope mutes those of its ids that are not muted yet. -/
theorem Scope.muted_opened {id : HandlerId} {ids : List HandlerId} {engine : Engine} :
    ((Scope.muted ids).opened engine).Muted id ↔ id ∈ ids ∧ id ∉ engine.muted :=
  Bag.mem_drop_addAll

theorem Scope.mem_openOn_muted {id : HandlerId} {ids : List HandlerId} {engine : Engine} :
    id ∈ ((Scope.muted ids).openOn engine).muted ↔ id ∈ engine.muted ∨ id ∈ ids :=
  Bag.mem_addAll

/-- Closing a scope unmutes what the scope muted. -/
theorem OpenScope.mem_close_muted {id : HandlerId} {scope : OpenScope} {engine : Engine} :
    id ∈ (scope.close engine).muted ↔ id ∈ engine.muted ∧ ¬ scope.Muted id := by
  cases scope with
  | muted added => exact Bag.mem_dropAll
  | silence => exact (and_iff_left not_false).symm

/-- Closing a scope takes back what opening it did. -/
theorem Scope.mem_opened_and_not_muted {id : HandlerId} {scope : Scope} {engine : Engine} :
    id ∈ (scope.openOn engine).muted ∧ ¬ (scope.opened engine).Muted id ↔ id ∈ engine.muted := by
  cases scope with
  | muted ids =>
      rw [mem_openOn_muted, muted_opened]
      by_cases hmuted : id ∈ engine.muted <;> simp [hmuted]
  | silence => exact and_iff_left not_false

/-! ## The last call -/

namespace Trace

def lastCall? (id : HandlerId) (trace : List Moment) : Option Moment :=
  (trace.filter fun moment => moment.deed.callsOn id).getLast?

/-- The muted set that the calls alone lead to, as if no scope had been opened. -/
def called (muted : Bag HandlerId) (trace : List Moment) : Bag HandlerId :=
  trace.foldl (fun muted moment => moment.deed.onMuted muted) muted

theorem lastCall?_append (id : HandlerId) (first second : List Moment) :
    lastCall? id (first ++ second) = (lastCall? id second).or (lastCall? id first) := by
  rw [lastCall?, List.filter_append, List.getLast?_append]
  rfl

theorem lastCall?_single (id : HandlerId) (moment : Moment) :
    lastCall? id [moment] = if moment.deed.callsOn id then some moment else none := by
  rw [lastCall?, List.filter_singleton]
  cases moment.deed.callsOn id <;> rfl

theorem lastCall?_within (id : HandlerId) (scope : OpenScope) (trace : List Moment) :
    lastCall? id (trace.map (Moment.within scope)) =
      (lastCall? id trace).map (Moment.within scope) := by
  rw [lastCall?, List.filter_map, List.getLast?_map]
  rfl

/-- Opening and closing a scope are no calls. -/
theorem lastCall?_inScope (id : HandlerId) (scope : OpenScope) (opened closed : Engine)
    (trace : List Moment) :
    lastCall? id (⟨[scope], .other, opened⟩ ::
        (trace.map (Moment.within scope) ++ [⟨[], .other, closed⟩])) =
      (lastCall? id trace).map (Moment.within scope) := by
  rw [← List.singleton_append, lastCall?_append, lastCall?_append, lastCall?_within]
  exact Option.or_none

/-- What is called last decides what the calls alone lead to. -/
theorem mem_called {id : HandlerId} {muted : Bag HandlerId} {trace : List Moment} :
    id ∈ called muted trace ↔
      (lastCall? id trace).elim (id ∈ muted) fun call => call.deed = .mute id := by
  induction trace using List.reverseRecOn with
  | nil => exact Iff.rfl
  | append_singleton earlier moment ih =>
      rw [called, List.foldl_append, lastCall?_append, lastCall?_single]
      change id ∈ moment.deed.onMuted (called muted earlier) ↔ _
      rw [Deed.mem_onMuted]
      cases moment.deed.callsOn id with
      | true => exact Iff.rfl
      | false => exact ih

end Trace

open Trace

/-- The last call on an id decides what a course leaves of it, unless it was made in a scope that
had muted the id. -/
theorem Course.mem_muted {before after : Engine} {trace : List Moment} (id : HandlerId)
    (hcourse : Course before trace after) :
    id ∈ after.muted ↔ (lastCall? id trace).elim (id ∈ before.muted) (Moment.MutesForGood id) := by
  induction hcourse with
  | @single deed before after hdoes =>
      rw [hdoes.muted, Deed.mem_onMuted, lastCall?_single]
      cases deed.callsOn id with
      | true => simp [Moment.MutesForGood, Moment.Scoped]
      | false => exact Iff.rfl
  | @inScope scope before ended trace hbody ih =>
      rw [lastCall?_inScope, OpenScope.mem_close_muted, ih]
      cases lastCall? id trace with
      | none => exact Scope.mem_opened_and_not_muted
      | some call =>
          change call.MutesForGood id ∧ _ ↔ (call.within _).MutesForGood id
          rw [Moment.MutesForGood, Moment.MutesForGood, Moment.scoped_within, not_or, and_assoc]
          exact Iff.rfl
  | @append before middle after first second hfirst hsecond ihfirst ihsecond =>
      rw [ihsecond, lastCall?_append]
      cases lastCall? id second with
      | none => exact ihfirst
      | some call => exact Iff.rfl

namespace Powers

/-- Where a scope of muted ids ends, also by a stop of what runs in it, an id is muted exactly if
the calls made in the scope would leave it so without any scopes and the last of them was not made
in a scope, this or a nested one, that had muted the id.  The ids are muted where the scope begins.
So it is for every program that the commands in the scope have, and they have one. -/
theorem muted_after_scope (ids : List HandlerId) :
    (∀ {α : Type} (body : Program α) (before : Engine),
      (∀ id ∈ ids, id ∈ ((Scope.muted ids).openOn before).muted) ∧
      ∀ id, id ∈ ((Program.inScope (.muted ids) body).after before).muted ↔
        id ∈ called before.muted ((Program.inScope (.muted ids) body).trace before) ∧
          ∀ call ∈ lastCall? id ((Program.inScope (.muted ids) body).trace before),
            ¬ call.Scoped id) ∧
    (∀ (powers : Powers) (commands : List (Command Behaviour)),
      performWith powers (.muted ids commands) =
        (Scope.muted ids).around (performAll powers commands) >>= fun answers =>
          pure (.list answers)) ∧
    ∀ (nesting fuel depth : Nat) (commands : List (Command Behaviour)),
      Engine.Written (performAll (within nesting fuel depth) commands) := by
  refine ⟨fun body before => ⟨fun id hid => Scope.mem_openOn_muted.mpr (.inr hid), fun id => ?_⟩,
    fun powers commands => performWith_muted powers ids commands,
    fun nesting fuel depth commands =>
      written_performAll (written_within nesting fuel depth) commands⟩
  rw [Course.mem_muted id (Program.course _ before), mem_called]
  cases lastCall? id ((Program.inScope (.muted ids) body).trace before) with
  | none => simp
  | some call => simp [Moment.MutesForGood]

/-- A handler that runs in the scope mutes an id that the scope has muted, and with the scope the
mute is gone. -/
theorem mute_in_scope_lost :
    let guard : Handler Behaviour :=
      { id := "guard", accepts := Dispatch.Sample.kind, serial := 0
        react := fun body => .operate (.mute "mail") fun _ => .finish body (.ok .null) }
    let engine : Engine :=
      { Engine.new .standard 0 with registry := (Registry.empty.insert (.live guard 0)).1 }
    let dispatch : Command Behaviour :=
      .dispatch ⟨Dispatch.Sample.kind, .plain, none, none, ⟨[], [], .fresh⟩, none, none⟩
    let mutedAfter (command : Command Behaviour) : Bag HandlerId :=
      ((performWith (within 3 3 0) command).run.run engine).2.muted
    mutedAfter dispatch = ["mail"] ∧ mutedAfter (.muted ["mail"] [dispatch]) = [] :=
  ⟨rfl, rfl⟩

end Powers
end Plugboard
