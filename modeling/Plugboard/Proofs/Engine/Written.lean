import Plugboard.Proofs.Engine.Composed

/-!
# Code as programs

All code over an engine has a program: what handlers do, dispatches, and commands, however deep
they are nested.  So what holds of programs holds of everything that an engine is used for.
-/

namespace Plugboard

namespace Engine

variable {α β : Type}

/-- The code is what some program is a view of. -/
def Written (code : EngineM α) : Prop := ∃ program : Program α, program.code = code

/-- Code that does nothing to what deeds are done to is a view of a deed of another kind. -/
theorem written_of_quiet {code : EngineM α}
    (hquiet : ∀ engine, Deed.other.Does engine (code.run.run engine).2) : Written code :=
  ⟨.quiet code hquiet, rfl⟩

theorem Written.bind {first : EngineM α} {next : α → EngineM β} (hfirst : Written first)
    (hnext : ∀ given, Written (next given)) : Written (first >>= next) := by
  obtain ⟨program, rfl⟩ := hfirst
  choose later hlater using hnext
  refine ⟨program.bind later, ?_⟩
  rw [Program.code]
  simp only [hlater]

theorem Written.around {code : EngineM α} (hcode : Written code) (scope : Scope) :
    Written (scope.around code) := by
  obtain ⟨program, rfl⟩ := hcode
  exact ⟨.inScope scope program, rfl⟩

theorem does_other_of_essence_eq {before after : Engine} (hsame : after.essence = before.essence) :
    Deed.other.Does before after := by
  simp only [essence, Prod.mk.injEq] at hsame
  obtain ⟨hregistry, -, -, -, -, hmuted, hsilenced, hdepth⟩ := hsame
  exact ⟨hregistry, hmuted, hsilenced, hdepth⟩

theorem written_enqueue (call : QueuedCall Behaviour) : Written (enqueue call) := by
  refine written_of_quiet fun engine => ?_
  have hbeside := besideQueues_enqueue call engine
  have hregistry := congrArg Engine.registry hbeside
  have hmuted := congrArg Engine.muted hbeside
  have hsilenced := congrArg Engine.silenced hbeside
  have hdepth := congrArg Engine.silenceDepth hbeside
  exact ⟨hregistry, hmuted, hsilenced, hdepth⟩

/-- That code is written is a property which all code has. -/
def written : CodeProperty where
  holds := Written
  value _ := written_of_quiet fun _ => ⟨rfl, rfl, rfl, rfl⟩
  stop _ := written_of_quiet fun _ => ⟨rfl, rfl, rfl, rfl⟩
  look := written_of_quiet fun _ => ⟨rfl, rfl, rfl, rfl⟩
  bind := Written.bind
  change hsame := written_of_quiet fun engine => does_other_of_essence_eq (hsame engine)
  deed deed := ⟨.act deed, rfl⟩
  around scope hcode := hcode.around scope
  registry command := ⟨.command command, rfl⟩
  view kind := ⟨.view kind, rfl⟩
  subscribe _ := written_of_quiet fun _ => ⟨rfl, rfl, rfl, rfl⟩
  unsubscribeAll _ := written_of_quiet fun _ => ⟨rfl, rfl, rfl, rfl⟩
  enqueue := written_enqueue
  drain := written_of_quiet fun _ => ⟨rfl, rfl, rfl, rfl⟩

end Engine

open Engine

/-- The code outside the dispatcher is written. -/
structure Runner.Written (runner : Runner) : Prop where
  run : ∀ handler point, Engine.Written (runner.run handler point)
  resolve : ∀ id, Engine.Written (runner.resolve id)
  enqueue : ∀ call, Engine.Written (runner.enqueue call)
  tell : ∀ listener point, Engine.Written (runner.tell listener point)

/-- A dispatch is written if the code outside the dispatcher is. -/
theorem Dispatch.written_dispatch {runner : Runner} (hrunner : runner.Written)
    (plan : DispatchPlan) (point : Point) : Engine.Written (dispatch runner plan point) :=
  have hhaving : runner.Having written :=
    ⟨hrunner.run, hrunner.resolve, hrunner.enqueue, hrunner.tell⟩
  has_dispatch hhaving plan point

namespace Powers

theorem written_runner {powers : Powers} (hpowers : powers.Having written) :
    powers.runner.Written :=
  have hrunner := has_runner hpowers
  ⟨hrunner.run, hrunner.resolve, hrunner.enqueue, hrunner.tell⟩

theorem written_performAll {powers : Powers} (hpowers : powers.Having written)
    (commands : List (Command Behaviour)) : Engine.Written (performAll powers commands) :=
  has_performAll hpowers commands

/-- Code is written, whatever the nesting. -/
theorem written_within (nesting fuel depth : Nat) :
    (within nesting fuel depth).Having written :=
  has_within nesting fuel depth

end Powers
end Plugboard
