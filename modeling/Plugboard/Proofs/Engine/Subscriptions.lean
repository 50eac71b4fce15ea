import Mathlib.Data.List.DropRight
import Plugboard.Proofs.Dispatch.Frame
import Plugboard.Proofs.Engine.Composed

/-!
# Who listens

A bus is what subscribing and unsubscribing made of it: who listens for a kind are those who
subscribed since all listeners for it were unsubscribed last.  Code does nothing else to the bus of
its engine, however deep it is nested and whether it comes to its end or stops.
-/

namespace Plugboard

/-- What is done to a bus. -/
inductive BusOperation where
  | subscribe (listener : Listener)
  | unsubscribeAll (kind : PointKind)

abbrev Bus := Table PointKind (List Listener)

namespace BusOperation

def clears (kind : PointKind) : BusOperation → Bool
  | .subscribe _ => false
  | .unsubscribeAll other => other == kind

/-- The listener for the kind that the operation subscribes. -/
def subscriber? (kind : PointKind) : BusOperation → Option Listener
  | .subscribe listener => if listener.kind = kind then some listener else none
  | .unsubscribeAll _ => none

end BusOperation

/-- Those who subscribed for the kind since all listeners for it were unsubscribed last, in the
order in which they subscribed. -/
def subscribers (kind : PointKind) (history : List BusOperation) : List Listener :=
  (history.rtakeWhile fun operation => !operation.clears kind).filterMap
    (BusOperation.subscriber? kind)

theorem subscribers_concat (kind : PointKind) (history : List BusOperation)
    (operation : BusOperation) :
    subscribers kind (history ++ [operation]) =
      if operation.clears kind = true then []
      else subscribers kind history ++ (operation.subscriber? kind).toList := by
  rw [subscribers, List.rtakeWhile_concat]
  cases operation.clears kind with
  | true => rfl
  | false =>
      simp only [Bool.not_false, if_true, Bool.false_eq_true, if_false]
      rw [List.filterMap_append, subscribers]
      cases hsubscriber : operation.subscriber? kind <;> simp [hsubscriber]

/-- Everyone who listens for a kind subscribed for this kind. -/
theorem kind_of_mem_subscribers {kind : PointKind} {history : List BusOperation}
    {listener : Listener} (hmem : listener ∈ subscribers kind history) : listener.kind = kind := by
  obtain ⟨operation, -, hsubscriber⟩ := List.mem_filterMap.mp hmem
  cases operation with
  | subscribe other =>
      rw [BusOperation.subscriber?] at hsubscriber
      split at hsubscriber
      · rename_i hkind
        obtain rfl := Option.some.inj hsubscriber
        exact hkind
      · cases hsubscriber
  | unsubscribeAll other => cases hsubscriber

namespace Bus

def listeners (bus : Bus) (kind : PointKind) : List Listener := (bus.get? kind).getD []

def perform (bus : Bus) : BusOperation → Bus
  | .subscribe listener =>
      Table.set listener.kind (bus.listeners listener.kind ++ [listener]) bus
  | .unsubscribeAll kind => Table.remove kind bus

def performAll (bus : Bus) (history : List BusOperation) : Bus := history.foldl perform bus

theorem performAll_append (bus : Bus) (earlier later : List BusOperation) :
    bus.performAll (earlier ++ later) = (bus.performAll earlier).performAll later :=
  List.foldl_append

/-- An operation changes who listens as it changes who has subscribed. -/
theorem listeners_perform (bus : Bus) (operation : BusOperation) (kind : PointKind) :
    (bus.perform operation).listeners kind =
      if operation.clears kind = true then []
      else bus.listeners kind ++ (operation.subscriber? kind).toList := by
  cases operation with
  | subscribe listener =>
      simp only [BusOperation.clears, Bool.false_eq_true, if_false, BusOperation.subscriber?]
      by_cases hkind : listener.kind = kind
      · subst hkind
        simp [perform, listeners]
      · rw [if_neg hkind, perform, listeners, listeners, Table.get?_set_of_ne (Ne.symm hkind)]
        exact (List.append_nil _).symm
  | unsubscribeAll other =>
      by_cases hkind : other = kind
      · subst hkind
        simp [perform, listeners, BusOperation.clears]
      · simp [perform, listeners, BusOperation.clears, BusOperation.subscriber?, hkind,
          Table.get?_remove_of_ne (Ne.symm hkind)]

/-- Who listens after a history that began with nobody. -/
theorem listeners_performAll (history : List BusOperation) (kind : PointKind) :
    listeners (performAll [] history) kind = subscribers kind history := by
  induction history using List.reverseRecOn with
  | nil => rfl
  | append_singleton history operation ih =>
      rw [performAll_append, subscribers_concat, ← ih]
      exact listeners_perform _ operation kind

end Bus

namespace Engine

/-- The engine is attached to the bus as before, and only operations were done to the bus. -/
structure Tuned (before after : Engine) : Prop where
  usesBus : after.usesBus = before.usesBus
  listeners : ∃ history, after.listeners = Bus.performAll before.listeners history

def busPart (engine : Engine) : Bool × Bus := (engine.usesBus, engine.listeners)

theorem tuned_of_busPart_eq {before after : Engine} (hsame : after.busPart = before.busPart) :
    Tuned before after :=
  ⟨congrArg Prod.fst hsame, [], congrArg Prod.snd hsame⟩

theorem tuned_refl (engine : Engine) : Tuned engine engine := ⟨rfl, [], rfl⟩

theorem Tuned.trans {before middle after : Engine} (hfirst : Tuned before middle)
    (hnext : Tuned middle after) : Tuned before after := by
  obtain ⟨earlier, hearlier⟩ := hfirst.listeners
  obtain ⟨later, hlater⟩ := hnext.listeners
  refine ⟨hnext.usesBus.trans hfirst.usesBus, earlier ++ later, ?_⟩
  rw [hlater, hearlier, Bus.performAll_append]

theorem untouched_busPart : Untouched busPart where
  record := fun engine _ => eq_of_bare_eq busPart (fun _ => rfl) (bare_record engine _)
  breaker := fun _ _ => rfl
  registry := fun _ _ => rfl

variable {α β : Type}

/-- The code does nothing but operations to the bus, also where it stops. -/
def OnlyTunes (code : EngineM α) : Prop := ∀ before, Tuned before (code.run.run before).2

theorem OnlyTunes.bind {first : EngineM α} {next : α → EngineM β} (hfirst : OnlyTunes first)
    (hnext : ∀ given, OnlyTunes (next given)) : OnlyTunes (first >>= next) := by
  intro before
  have hmiddle := hfirst before
  rw [run_bind]
  split
  · rename_i given middle hrun
    rw [hrun] at hmiddle
    exact hmiddle.trans (hnext given middle)
  · rename_i abort middle hrun
    rw [hrun] at hmiddle
    exact hmiddle

theorem OnlyTunes.around {code : EngineM α} (hcode : OnlyTunes code) (scope : Scope) :
    OnlyTunes (scope.around code) := by
  intro before
  rw [scope.run_around]
  have hopened : (scope.openOn before).busPart = before.busPart := by cases scope <;> rfl
  have hclosed (engine : Engine) :
      ((scope.opened before).close engine).busPart = engine.busPart := by
    cases scope <;> rfl
  exact ((tuned_of_busPart_eq hopened).trans (hcode _)).trans (tuned_of_busPart_eq (hclosed _))

theorem onlyTunes_view (kind : PointKind) : OnlyTunes (view kind) := by
  intro before
  have hrun : Runs (view kind) before (before.registry.view kind) (before.viewed kind) :=
    runs_view.mpr ⟨rfl, rfl⟩
  rw [show (view kind).run.run before = _ from hrun]
  exact tuned_of_busPart_eq (untouched_busPart.viewed before kind)

theorem onlyTunes_performRegistry (command : RegistryCommand Behaviour) :
    OnlyTunes (Powers.performRegistry command) := by
  intro before
  obtain ⟨answer, after, hrun, hbeside⟩ := Powers.onlyRegisters_performRegistry command before
  rw [show (Powers.performRegistry command).run.run before = _ from hrun]
  have hsame : after.besideRegistry.busPart = before.besideRegistry.busPart :=
    congrArg busPart hbeside
  exact tuned_of_busPart_eq hsame

theorem busPart_eq_of_essence_eq {before after : Engine} (hsame : after.essence = before.essence) :
    after.busPart = before.busPart := by
  simp only [essence, Prod.mk.injEq] at hsame
  obtain ⟨-, -, -, husesBus, hlisteners, -, -, -⟩ := hsame
  exact Prod.ext husesBus hlisteners

/-- That code does nothing to the bus but operations is a property which all code has. -/
def onlyTuning : CodeProperty where
  holds := OnlyTunes
  value _ := tuned_refl
  stop _ := tuned_refl
  look := tuned_refl
  bind := OnlyTunes.bind
  change hsame before := tuned_of_busPart_eq (busPart_eq_of_essence_eq (hsame before))
  deed _ _ := tuned_of_busPart_eq rfl
  around scope hcode := hcode.around scope
  registry := onlyTunes_performRegistry
  view := onlyTunes_view
  subscribe listener _ := ⟨rfl, [.subscribe listener], rfl⟩
  unsubscribeAll kind _ := ⟨rfl, [.unsubscribeAll kind], rfl⟩
  enqueue call before :=
    tuned_of_busPart_eq (congrArg (fun engine => engine.busPart) (besideQueues_enqueue call before))
  drain _ := tuned_of_busPart_eq rfl

end Engine

open Engine

/-- The code outside the dispatcher does nothing but operations to the bus. -/
structure Runner.OnlyTunes (runner : Runner) : Prop where
  run : ∀ handler point, Engine.OnlyTunes (runner.run handler point)
  resolve : ∀ id, Engine.OnlyTunes (runner.resolve id)
  enqueue : ∀ call, Engine.OnlyTunes (runner.enqueue call)
  tell : ∀ listener point, Engine.OnlyTunes (runner.tell listener point)

/-- Visits do nothing but operations to the bus if the code outside the dispatcher does not. -/
theorem Dispatch.onlyTunes_tour {runner : Runner} (htunes : runner.OnlyTunes) (plan : DispatchPlan)
    (entries : List (Entry Behaviour)) (point : Point) :
    Engine.OnlyTunes (tour runner plan entries point) :=
  have hrunner : runner.Having onlyTuning :=
    ⟨htunes.run, htunes.resolve, htunes.enqueue, htunes.tell⟩
  has_tour hrunner plan entries point

namespace Powers

theorem runner_onlyTunes {powers : Powers} (htunes : powers.Having onlyTuning) :
    powers.runner.OnlyTunes :=
  have hrunner := has_runner htunes
  ⟨hrunner.run, hrunner.resolve, hrunner.enqueue, hrunner.tell⟩

/-- Code does nothing but operations to the bus, whatever the nesting. -/
theorem within_onlyTunes (nesting fuel depth : Nat) :
    (within nesting fuel depth).Having onlyTuning :=
  has_within nesting fuel depth

end Powers
end Plugboard
