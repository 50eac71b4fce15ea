import Plugboard.Proofs.Engine.Commands

/-!
# Programs over an engine

A program shows what a piece of code does to the registry, to the muted set and to the silence
of its engine: each such deed by itself, scopes around other programs, and everything else as
code that does nothing of the kind.  The trace of a program tells the deeds in their order, with
the scopes that were open around each and with the engine that it left.  Programs are not run in
place of the code; they are a view of it.
-/

namespace Plugboard

open Engine

/-- One thing done to the registry, the muted set or the silence of an engine, or to none of
them. -/
inductive Deed where
  | mute (id : HandlerId)
  | unmute (id : HandlerId)
  | silenceOn
  | resume
  | operation (performed : RegistryOperation Behaviour)
  | other

namespace Deed

def onRegistry : Deed → Registry Behaviour → Registry Behaviour
  | .operation performed, registry => (registry.perform performed).2
  | _, registry => registry

def onMuted : Deed → Bag HandlerId → Bag HandlerId
  | .mute id, muted => Bag.add id muted
  | .unmute id, muted => Bag.drop id muted
  | _, muted => muted

def onSilenced : Deed → Bool → Bool
  | .silenceOn, _ => true
  | .resume, _ => false
  | _, silenced => silenced

def apply (deed : Deed) (engine : Engine) : Engine :=
  { engine with
    registry := deed.onRegistry engine.registry
    muted := deed.onMuted engine.muted
    silenced := deed.onSilenced engine.silenced }

/-- What a command on the registry does, if the next handler gets this number. -/
def ofCommand (serial : Nat) (command : RegistryCommand Behaviour) : Deed :=
  match command.operation? serial with
  | some performed => .operation performed
  | none => .other

end Deed

/-- The deed, and nothing else, was done to what deeds are done to. -/
structure Deed.Does (deed : Deed) (before after : Engine) : Prop where
  registry : after.registry = deed.onRegistry before.registry
  muted : after.muted = deed.onMuted before.muted
  silenced : after.silenced = deed.onSilenced before.silenced
  silenceDepth : after.silenceDepth = before.silenceDepth

theorem Deed.does_apply (deed : Deed) (engine : Engine) : deed.Does engine (deed.apply engine) :=
  ⟨rfl, rfl, rfl, rfl⟩

/-! ## Scopes -/

/-- A scope as it is asked for. -/
inductive Scope where
  | muted (ids : List HandlerId)
  | silence

/-- An open scope: the ids that it muted, or that it silences. -/
inductive OpenScope where
  | muted (added : List HandlerId)
  | silence
  deriving DecidableEq

namespace Scope

def openOn (engine : Engine) : Scope → Engine
  | .muted ids => { engine with muted := ids.foldl (fun muted id => Bag.add id muted) engine.muted }
  | .silence => { engine with silenceDepth := engine.silenceDepth + 1 }

def opened (engine : Engine) (scope : Scope) : OpenScope :=
  match scope with
  | .muted _ => .muted (List.drop engine.muted.length (scope.openOn engine).muted)
  | .silence => .silence

/-- Runs code in the scope. -/
def around {α : Type} (scope : Scope) (code : EngineM α) : EngineM α :=
  match scope with
  | .muted ids => do
    let added ← Powers.muteAll ids
    leaving code fun engine =>
      { engine with muted := added.foldl (fun muted id => Bag.drop id muted) engine.muted }
  | .silence => do
    modify fun engine => { engine with silenceDepth := engine.silenceDepth + 1 }
    leaving code fun engine => { engine with silenceDepth := engine.silenceDepth - 1 }

end Scope

def OpenScope.close (engine : Engine) : OpenScope → Engine
  | .muted added =>
      { engine with muted := added.foldl (fun muted id => Bag.drop id muted) engine.muted }
  | .silence => { engine with silenceDepth := engine.silenceDepth - 1 }

/-- Code in a scope runs on the engine with the scope open, and the scope is closed wherever the
code ends or stops. -/
theorem Scope.run_around {α : Type} (scope : Scope) (code : EngineM α) (before : Engine) :
    (scope.around code).run.run before =
      ((code.run.run (scope.openOn before)).1,
        (scope.opened before).close (code.run.run (scope.openOn before)).2) := by
  cases scope with
  | muted ids => rfl
  | silence => rfl

/-! ## Programs -/

/-- A view of code by what it does to the registry, the muted set and the silence. -/
inductive Program : Type → Type 1 where
  /-- Code that does nothing of the kind, whatever the engine. -/
  | quiet {α : Type} (code : EngineM α)
      (hquiet : ∀ engine, Deed.other.Does engine (code.run.run engine).2) : Program α
  | act (deed : Deed) : Program Unit
  | command (given : RegistryCommand Behaviour) : Program Answer
  | view (kind : PointKind) : Program (List (Entry Behaviour))
  | inScope {α : Type} (scope : Scope) (body : Program α) : Program α
  /-- A stop of the body becomes a value. -/
  | caught {α : Type} (body : Program α) : Program (Except Abort α)
  | bind {α β : Type} (first : Program α) (next : α → Program β) : Program β

/-- One moment of a program: a deed, the scopes that the program has open then, the innermost
first, and the engine after the deed. -/
structure Moment where
  scopes : List OpenScope
  deed : Deed
  engine : Engine

/-- The moment, with one scope more around everything. -/
def Moment.within (scope : OpenScope) (moment : Moment) : Moment :=
  { moment with scopes := moment.scopes ++ [scope] }

namespace Program

variable {α β : Type}

/-- The code that a program is a view of. -/
def code : {α : Type} → Program α → EngineM α
  | _, .quiet code _ => code
  | _, .act deed => modify deed.apply
  | _, .command given => Powers.performRegistry given
  | _, .view kind => Engine.view kind
  | _, .inScope scope body => scope.around body.code
  | _, .caught body => Engine.caught body.code
  | _, .bind first next => first.code >>= fun value => (next value).code

def outcome (program : Program α) (before : Engine) : Except Abort α :=
  (program.code.run.run before).1

def after (program : Program α) (before : Engine) : Engine :=
  (program.code.run.run before).2

/-- The moments of the program, run from an engine. -/
def trace : {α : Type} → Program α → Engine → List Moment
  | _, .quiet code _, before => [⟨[], .other, (code.run.run before).2⟩]
  | _, .act deed, before => [⟨[], deed, deed.apply before⟩]
  | _, .command given, before =>
      [⟨[], .ofCommand before.nextSerial given, (command given).after before⟩]
  | _, .view kind, before => [⟨[], .operation (.view kind), before.viewed kind⟩]
  | _, .inScope scope body, before =>
      ⟨[scope.opened before], .other, scope.openOn before⟩ ::
        ((body.trace (scope.openOn before)).map (Moment.within (scope.opened before)) ++
          [⟨[], .other, (inScope scope body).after before⟩])
  | _, .caught body, before => body.trace before
  | _, .bind first next, before =>
      first.trace before ++
        match first.outcome before with
        | .ok value => (next value).trace (first.after before)
        | .error _ => []

end Program

/-! ## What a trace tells -/

theorem Engine.untouched_of_bare_eq {before after : Engine} (hbare : after.bare = before.bare) :
    Deed.other.Does before after where
  registry := eq_of_bare_eq registry (fun _ => rfl) hbare
  muted := eq_of_bare_eq Engine.muted (fun _ => rfl) hbare
  silenced := eq_of_bare_eq Engine.silenced (fun _ => rfl) hbare
  silenceDepth := eq_of_bare_eq Engine.silenceDepth (fun _ => rfl) hbare

theorem Engine.does_viewed (before : Engine) (kind : PointKind) :
    (Deed.operation (.view kind)).Does before (before.viewed kind) where
  registry := rfl
  muted := (untouched_of_bare_eq (bare_recordAll before _)).muted
  silenced := (untouched_of_bare_eq (bare_recordAll before _)).silenced
  silenceDepth := (untouched_of_bare_eq (bare_recordAll before _)).silenceDepth

/-- A command on the registry does its operation, if it stands for one, and nothing else. -/
theorem Powers.does_performRegistry (command : RegistryCommand Behaviour) (before : Engine) :
    (Deed.ofCommand before.nextSerial command).Does before
      ((performRegistry command).run.run before).2 := by
  obtain ⟨answer, after, hrun, hbeside⟩ := onlyRegisters_performRegistry command before
  rw [show (performRegistry command).run.run before = (.ok answer, after) from hrun]
  have hregistry := registry_of_performRegistry hrun
  have hmuted := congrArg Engine.muted hbeside
  have hsilenced := congrArg Engine.silenced hbeside
  have hdepth := congrArg Engine.silenceDepth hbeside
  rw [Deed.ofCommand]
  cases hoperation : command.operation? before.nextSerial with
  | none =>
      rw [hoperation] at hregistry
      exact ⟨hregistry, hmuted, hsilenced, hdepth⟩
  | some performed =>
      rw [hoperation] at hregistry
      exact ⟨hregistry, hmuted, hsilenced, hdepth⟩

/-- How deeds and scopes lead from one engine to another: deeds one after the other, and around
some of them scopes that are opened before and closed after them. -/
inductive Course : Engine → List Moment → Engine → Prop where
  | single {deed : Deed} {before after : Engine} (hdoes : deed.Does before after) :
      Course before [⟨[], deed, after⟩] after
  | inScope (scope : Scope) {before ended : Engine} {trace : List Moment}
      (hbody : Course (scope.openOn before) trace ended) :
      Course before
        (⟨[scope.opened before], .other, scope.openOn before⟩ ::
          (trace.map (Moment.within (scope.opened before)) ++
            [⟨[], .other, (scope.opened before).close ended⟩]))
        ((scope.opened before).close ended)
  | append {before middle after : Engine} {first second : List Moment}
      (hfirst : Course before first middle) (hsecond : Course middle second after) :
      Course before (first ++ second) after

namespace Program

variable {α β : Type}

theorem after_inScope (scope : Scope) (body : Program α) (before : Engine) :
    (inScope scope body).after before =
      (scope.opened before).close (body.after (scope.openOn before)) := by
  rw [after, code, scope.run_around, after]

/-- A program in sequence goes on from what the first part left. -/
theorem after_bind (first : Program α) (next : α → Program β) (before : Engine) :
    (first.bind next).after before =
      match first.outcome before with
      | .ok value => (next value).after (first.after before)
      | .error _ => first.after before := by
  rw [after, code, run_bind, outcome, after]
  cases first.code.run.run before with
  | mk given middle => cases given <;> rfl

/-- The trace of a program leads from the engine that it is run from to the one that it
leaves. -/
theorem course (program : Program α) (before : Engine) :
    Course before (program.trace before) (program.after before) := by
  induction program generalizing before with
  | quiet code hquiet => exact .single (hquiet before)
  | act deed => exact .single (deed.does_apply before)
  | command given => exact .single (Powers.does_performRegistry given before)
  | view kind =>
      have hafter : (view kind).after before = before.viewed kind :=
        congrArg Prod.snd (runs_view.mpr ⟨rfl, rfl⟩)
      rw [hafter]
      exact .single (before.does_viewed kind)
  | inScope scope body ih =>
      rw [trace, after_inScope]
      exact .inScope scope (ih _)
  | caught body ih => exact ih before
  | bind first next hfirst hnext =>
      rw [trace, after_bind]
      cases first.outcome before with
      | ok value => exact .append (hfirst before) (hnext value _)
      | error abort =>
          rw [List.append_nil]
          exact hfirst before

end Program
end Plugboard
