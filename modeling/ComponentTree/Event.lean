import ComponentTree.Node.Loading
import ComponentTree.Policy
import ComponentTree.LogRecord

/-!
What happens in the course of a render, in order: the calls of hooks, the resolution of names, the
reports of diagnostics, and the values that are found in the place of a component name while
children are loaded. A `Traced` value carries what happened while it was made; lists of diagnostics
and lines for a log are read off the events.
-/

namespace ComponentTree

/-- Something that happens in the course of a render. -/
inductive Event (ρ : Type) where
  /-- The format hook is called for the element at a position. -/
  | format (path : String) (declared : Element)
  /-- A name is resolved. -/
  | resolve (path component : String) (kind : ResolutionKind)
  /-- A diagnostic is handed over. -/
  | report (diagnostic : Diagnostic)
  /-- A value stands in the place of a component name in the children that a prop holds. -/
  | stray (component : Json)
  /-- The node decorator is called for the instance made of a formatted element. -/
  | decorate (built : Instance ρ) (node : Element)
  /-- The tree decorator is called for the topmost instances. -/
  | finish (top : List (Instance ρ))

namespace Event

variable {ρ : Type}

/-- The diagnostic that is handed over, if any. -/
def diagnostic? : Event ρ → Option Diagnostic
  | report d => some d
  | _ => none

/-- The lines for a log. `logsDiagnostics` says whether diagnostics go to the log;
`strayInFormat` gives the stray components that the format hook meets. -/
def logRecords (logsDiagnostics : Bool) (strayInFormat : String → Element → List Json) :
    Event ρ → List LogRecord
  | format path declared =>
    (strayInFormat path declared).map fun component => ⟨.debug, component.strayMessage⟩
  | resolve path component kind =>
    [⟨.trace, "[" ++ component ++ "] at " ++ path ++ " resolved as " ++ kind.label⟩]
  | report d => if logsDiagnostics then [⟨.error, d.message⟩] else []
  | stray component => [⟨.debug, component.strayMessage⟩]
  | decorate _ _ => []
  | finish top => [⟨.debug, "rendered " ++ Nat.repr top.length ++ " top-level JCOD nodes"⟩]

/-- Which events are called out. -/
structure Listener where
  format : Bool := false
  node : Bool := false
  tree : Bool := false
  diagnostics : Bool := false

/-- The line that calls out an event, if the listener hears it. -/
def callLine? (listener : Listener) : Event ρ → Option String
  | format path declared =>
    if listener.format then some ("format " ++ path ++ " " ++ declared.component) else none
  | decorate built node =>
    if listener.node then some ("node " ++ built.key?.getD "-" ++ " " ++ node.component) else none
  | finish top =>
    if listener.tree then some ("tree " ++ Nat.repr top.length) else none
  | report d =>
    if listener.diagnostics then some ("sink " ++ d.path ++ " " ++ d.component) else none
  | resolve _ _ _ | stray _ => none

end Event

/-- A value together with what happened while it was made. -/
structure Traced (ρ α : Type) where
  value : α
  events : List (Event ρ)

namespace Traced

variable {ρ α : Type}

/-- A value in the making of which nothing happened. -/
def silent (value : α) : Traced ρ α := ⟨value, []⟩

/-- Values made one after another. -/
def sequence (steps : List (Traced ρ α)) : Traced ρ (List α) :=
  ⟨steps.map (·.value), steps.flatMap (·.events)⟩

@[simp] theorem value_silent (value : α) : (silent value : Traced ρ α).value = value := rfl

@[simp] theorem events_silent (value : α) : (silent value : Traced ρ α).events = [] := rfl

@[simp] theorem value_sequence (steps : List (Traced ρ α)) :
    (sequence steps).value = steps.map (·.value) := rfl

@[simp] theorem events_sequence (steps : List (Traced ρ α)) :
    (sequence steps).events = steps.flatMap (·.events) := rfl

/-- The diagnostics that were handed over. -/
def diagnostics (t : Traced ρ α) : List Diagnostic :=
  t.events.filterMap Event.diagnostic?

end Traced

end ComponentTree
