import ComponentTree.Proofs.Render.Tour

/-!
Messages on and off. Without messages a render goes through the same events but for the reports, so
that nothing which is built, and no call of a hook, depends on whether there are messages.

* `Traced.keeping` — a traced value with some of its events left out; `renderSiblings_keeping` and
  its companions — it makes no difference whether events are left out of the elements of a list or
  of the whole list.
* `renderElement_silenced` — one element with everything in it: without messages, it is rendered as
  with or without them, but for the reports.
* `render_silenced` — whole documents.
-/

namespace ComponentTree

variable {ρ α : Type}

/-! ### Leaving out events -/

/-- Whether an event hands over a diagnostic. -/
def Event.isReport : Event ρ → Bool
  | report _ => true
  | format _ _ | resolve _ _ _ | stray _ | decorate _ _ | finish _ => false

/-- The same value with some of the events that made it. -/
def Traced.keeping (p : Event ρ → Bool) (t : Traced ρ α) : Traced ρ α :=
  ⟨t.value, t.events.filter p⟩

namespace Traced

variable (p : Event ρ → Bool)

@[simp] theorem keeping_mk (value : α) (events : List (Event ρ)) :
    (⟨value, events⟩ : Traced ρ α).keeping p = ⟨value, events.filter p⟩ := rfl

@[simp] theorem value_keeping (t : Traced ρ α) : (t.keeping p).value = t.value := rfl

@[simp] theorem events_keeping (t : Traced ρ α) : (t.keeping p).events = t.events.filter p := rfl

theorem keeping_sequence (steps : List (Traced ρ α)) :
    (sequence steps).keeping p = sequence (steps.map (·.keeping p)) := by
  simp only [sequence, keeping, List.filter_flatMap, List.map_map, List.flatMap_map]
  rfl

end Traced

namespace Scene

section Lists

variable (p : Event ρ → Bool) (descend : String → Element → Traced ρ (Instance ρ)) (path : String)

theorem renderNode_keeping (node : Node) :
    renderNode (fun path e => (descend path e).keeping p) path node
      = (renderNode descend path node).keeping p := by
  cases node with
  | text value => rfl
  | element e => rfl

theorem renderSiblings_keeping (nodes : List Node) :
    renderSiblings (fun path e => (descend path e).keeping p) path nodes
      = (renderSiblings descend path nodes).keeping p := by
  simp only [renderSiblings, renderNode_keeping, Traced.keeping_sequence, map_mapIdx]

theorem renderContent_keeping (content : Content) :
    renderContent (fun path e => (descend path e).keeping p) path content
      = (renderContent descend path content).keeping p := by
  cases content with
  | text value => rfl
  | nodes items => exact renderSiblings_keeping p descend path items

theorem renderChildren_keeping (content : Option Content) :
    renderChildren (fun path e => (descend path e).keeping p) path content
      = (renderChildren descend path content).keeping p := by
  cases content with
  | none => rfl
  | some content => exact renderContent_keeping p descend path content

theorem renderSlots_keeping (slots : Fields Content) :
    renderSlots (fun path e => (descend path e).keeping p) path slots
      = (renderSlots descend path slots).keeping p := by
  simp only [renderSlots, renderContent_keeping, Traced.keeping_sequence, List.map_map]
  rfl

end Lists

/-! ### One level -/

/-- The scene with messages on or off. -/
def withMessages (scene : Scene ρ) (messages : Bool) : Scene ρ :=
  { scene with settings := { scene.settings with displayErrorMessage := messages } }

/-- Messages have no part in what becomes of a name. -/
theorem resolve_withMessages (name : String) (registry : Registry ρ) (settings : Settings)
    (messages : Bool) :
    let resolution := resolve name registry { settings with displayErrorMessage := messages }
    resolution.renderable = (resolve name registry settings).renderable ∧
      resolution.kind = (resolve name registry settings).kind := by
  have rule : Settings.tagRule? { settings with displayErrorMessage := messages } name
      = settings.tagRule? name := rfl
  unfold resolve
  rw [rule]
  cases registry.get? name with
  | some reference => exact ⟨rfl, rfl⟩
  | none => cases settings.tagRule? name <;> exact ⟨rfl, rfl⟩

variable (scene : Scene ρ)

theorem reports_silenced (diagnostics : List Diagnostic) :
    (scene.withMessages false).reports diagnostics = [] := rfl

theorem filter_reports (diagnostics : List Diagnostic) :
    (scene.reports diagnostics).filter (fun event => !event.isReport) = [] := by
  rw [List.filter_eq_nil_iff]
  intro event hevent
  obtain ⟨diagnostic, -, rfl⟩ := exists_of_mem_reports hevent
  exact Bool.false_ne_true

theorem filter_strays (values : List Json) :
    (values.map (Event.stray (ρ := ρ))).filter (fun event => !event.isReport)
      = values.map Event.stray := by
  rw [List.filter_eq_self]
  intro event hevent
  obtain ⟨value, -, rfl⟩ := List.mem_map.mp hevent
  rfl

theorem truncate_silenced (path : String) (declared : Element) :
    (scene.withMessages false).truncate path declared
      = (scene.truncate path declared).keeping fun event => !event.isReport := by
  simp only [truncate, Traced.keeping_mk, List.filter_append, filter_reports, reports_silenced]
  rfl

/-- One level without messages: of what is rendered below, and of what happens here, the reports
are left out. -/
theorem expand_silenced (descend : String → Element → Traced ρ (Instance ρ)) (path : String)
    (declared : Element) :
    (scene.withMessages false).expand
        (fun path e => (descend path e).keeping fun event => !event.isReport) path declared
      = (scene.expand descend path declared).keeping fun event => !event.isReport := by
  have resolved := fun name => resolve_withMessages name scene.registry scene.settings false
  simp only [expand, Traced.keeping_mk, List.filter_append, filter_reports, filter_strays,
    renderSlots_keeping, renderChildren_keeping, Traced.value_keeping, Traced.events_keeping,
    withMessages, (resolved _).1, (resolved _).2]
  rfl

/-- **One element with everything in it**, whatever the hooks do. The induction is on the levels
that are left. -/
theorem renderElement_silenced (level : Nat) :
    (scene.withMessages false).renderElement level
      = fun path e => (scene.renderElement level path e).keeping fun event => !event.isReport := by
  induction level with
  | zero =>
      funext path e
      exact scene.truncate_silenced path e
  | succ level ih =>
      funext path e
      rw [renderElement, ih]
      exact scene.expand_silenced _ path e

theorem renderRoots_silenced (roots : List Node) :
    (scene.withMessages false).renderRoots roots
      = (scene.renderRoots roots).keeping fun event => !event.isReport := by
  simp only [renderRoots, renderElement_silenced, renderSiblings_keeping, Traced.keeping_mk,
    Traced.value_keeping, Traced.events_keeping, List.filter_append]
  rfl

end Scene

/-! ### Documents -/

/-- The renderer with messages on or off. -/
def Renderer.withMessages (r : Renderer ρ) (messages : Bool) : Renderer ρ :=
  { r with settings := { r.settings with displayErrorMessage := messages } }

theorem isReport_of_isCall {event : Event ρ} (call : event.isCall = true) :
    event.isReport = false := by
  cases event <;> first | rfl | exact nomatch call

/-- **Messages off change nothing but what is handed over.** Whatever the document, the registry,
the other settings and the hooks are: the two trees are the same; with messages off everything
happens that happens with messages on, in the same order, but for the reports, so hooks are called
alike; and nothing at all is handed over. -/
theorem render_silenced (r : Renderer ρ) :
    let off := r.withMessages false
    let on := r.withMessages true
    off.tree = on.tree ∧
      off.render.events = on.render.events.filter (fun event => !event.isReport) ∧
      off.render.events.filter Event.isCall = on.render.events.filter Event.isCall ∧
      off.diagnostics = [] := by
  intro off on
  have silenced : off.render = on.render.keeping fun event => !event.isReport :=
    Scene.renderRoots_silenced (on.toScene) r.roots
  have value : off.render.value = on.render.value := by rw [silenced, Traced.value_keeping]
  have events := congrArg Traced.events silenced
  refine ⟨value, events, ?_, Scene.diagnostics_renderRoots_eq_nil rfl r.roots⟩
  rw [events, Traced.events_keeping, List.filter_filter]
  refine List.filter_congr fun event _ => ?_
  cases call : event.isCall with
  | true => rw [isReport_of_isCall call]; rfl
  | false => rfl

end ComponentTree
