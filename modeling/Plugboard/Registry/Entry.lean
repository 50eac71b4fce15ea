import Plugboard.Handler
import Plugboard.Queue.Options
/-!
# Registry entries

An entry is one registration of a handler for a kind of point.  Entries are told apart
by their handles, which are given out in order of registration.
-/

namespace Plugboard

/-- The tags of an entry, each once and in order. -/
abbrev TagSet := List String

namespace TagSet

def insert (tag : String) : TagSet → TagSet
  | [] => [tag]
  | other :: rest =>
    if tag < other then tag :: other :: rest
    else if tag = other then other :: rest
    else other :: insert tag rest

def insertAll (tags : List String) (set : TagSet) : TagSet :=
  tags.foldl (fun set tag => set.insert tag) set

def remove (tag : String) (set : TagSet) : TagSet := List.filter (fun other => other != tag) set

@[simp]
theorem mem_insert {tag other : String} {set : TagSet} :
    other ∈ set.insert tag ↔ other = tag ∨ other ∈ set := by
  induction set with
  | nil => simp [insert]
  | cons first rest ih =>
    simp only [insert]
    split
    · simp
    · split
      · rename_i hequal
        simp [hequal]
      · simp [ih, or_left_comm]

@[simp]
theorem mem_insertAll {tags : List String} {other : String} {set : TagSet} :
    other ∈ set.insertAll tags ↔ other ∈ tags ∨ other ∈ set := by
  induction tags generalizing set with
  | nil => simp [insertAll]
  | cons tag rest ih =>
    have step : set.insertAll (tag :: rest) = (set.insert tag).insertAll rest := rfl
    rw [step, ih]
    simp [or_left_comm, or_assoc]

@[simp]
theorem mem_remove {tag other : String} {set : TagSet} :
    other ∈ set.remove tag ↔ other ∈ set ∧ other ≠ tag := by
  simp [remove]

end TagSet

/-- How an entry reaches its handler: it holds it, or it is looked up by id each time. -/
inductive HandlerRef (ρ : Type) where
  | live (handler : Handler ρ)
  | deferred (id : HandlerId)

/-- What queueing an entry needs: the caller's wishes and the kind of point to copy. -/
structure QueuePlan where
  options : QueueOptions
  copies : PointKind

/-- One registration. -/
structure Entry (ρ : Type) where
  handle : Nat
  point : PointKind
  id : HandlerId
  handler : HandlerRef ρ
  priority : Int
  tags : TagSet
  group : Option String
  scope : Option String
  queue : Option QueuePlan

namespace Entry

variable {ρ : Type}

def hasTag (tag : String) (entry : Entry ρ) : Bool := entry.tags.contains tag
def inGroup (group : String) (entry : Entry ρ) : Bool := entry.group == some group
def inScope (scope : String) (entry : Entry ρ) : Bool := entry.scope == some scope
def isQueued (entry : Entry ρ) : Bool := entry.queue.isSome

def deferredId? (entry : Entry ρ) : Option HandlerId :=
  match entry.handler with
  | .live _ => none
  | .deferred id => some id

end Entry

/-- A registration that has no handle yet. -/
structure Registration (ρ : Type) where
  point : PointKind
  id : HandlerId
  handler : HandlerRef ρ
  priority : Int
  group : Option String
  scope : Option String
  queue : Option QueuePlan

namespace Registration

variable {ρ : Type}

/-- Registers a handler for the points it accepts. -/
def live (handler : Handler ρ) (priority : Int) : Registration ρ :=
  { point := handler.accepts, id := handler.id, handler := .live handler, priority
    group := none, scope := none, queue := none }

/-- Registers whatever handler `id` stands for at the time of a dispatch. -/
def deferred (point : PointKind) (id : HandlerId) (priority : Int) : Registration ρ :=
  { point, id, handler := .deferred id, priority, group := none, scope := none, queue := none }

/-- The handler runs through the queue, on a copy of the point. -/
def queued (registration : Registration ρ) (options : QueueOptions) : Registration ρ :=
  { registration with queue := some ⟨options, registration.point⟩ }

def inGroup (registration : Registration ρ) (group : String) : Registration ρ :=
  { registration with group := some group }

def inScope (registration : Registration ρ) (scope : String) : Registration ρ :=
  { registration with scope := some scope }

def toEntry (registration : Registration ρ) (handle : Nat) : Entry ρ :=
  { handle, point := registration.point, id := registration.id
    handler := registration.handler, priority := registration.priority, tags := []
    group := registration.group, scope := registration.scope, queue := registration.queue }

end Registration

/-- An entry as it can be shown: without its handler. -/
structure EntryView where
  handle : Nat
  point : PointKind
  id : HandlerId
  priority : Int
  tags : TagSet
  group : Option String
  scope : Option String
  options : Option QueueOptions
  deferred : Option HandlerId

namespace EntryView

def isQueued (view : EntryView) : Bool := view.options.isSome

def inspect (view : EntryView) : String :=
  Text.inspectRecord "HandlerEntry"
    [("handle", Text.inspectVariant "EntryHandle" [toString view.handle]),
     ("point", Text.inspectString view.point.name),
     ("id", Text.inspectVariant "HandlerId" [Text.inspectString view.id]),
     ("priority", toString view.priority),
     ("tags", Text.inspectSet (view.tags.map Text.inspectString)),
     ("group", Text.inspectOption (view.group.map Text.inspectString)),
     ("scope", Text.inspectOption
       (view.scope.map fun scope => Text.inspectVariant "ScopeId" [Text.inspectString scope])),
     ("queued", Text.inspectBool view.isQueued),
     ("deferred", Text.inspectBool view.deferred.isSome)]

end EntryView

def Entry.view {ρ : Type} (entry : Entry ρ) : EntryView :=
  { handle := entry.handle, point := entry.point, id := entry.id, priority := entry.priority
    tags := entry.tags, group := entry.group, scope := entry.scope
    options := entry.queue.map QueuePlan.options, deferred := entry.deferredId? }

end Plugboard
