import ComponentTree.Proofs.Render.Shape

/-!
The events of a render nest like the elements. What happens while an element is rendered stands
between the call of the format hook and the call of the node decorator for it, so the elements that
are being rendered at some event can be read off the events before it: `Event.situated` pairs each
event with their paths, innermost first.

* `Nested` — events in which the calls match, at most a number of elements deep; it is closed
  under joining lists, which carries it through siblings, slots and levels.
* `Nested.situated_append`, `Nested.length_le` — what such events say can be read piece by piece,
  and no more elements are open than the number allows.
* `nested_renderElement` — an element with a number of levels left nests one element deeper than
  that, whatever the hooks do.
* `opened_renderRoots` — the elements whose format calls are made are the elements of the tree.
-/

namespace ComponentTree

variable {ρ α β : Type}

/-! ### The elements that are being rendered -/

namespace Event

/-- Whether the event begins or ends the rendering of an element. -/
def isBracket : Event ρ → Bool
  | format _ _ | decorate _ _ => true
  | resolve _ _ _ | report _ | stray _ | finish _ => false

/-- The elements that are being rendered when an event happens, given those before it. Both calls
for an element count as part of its rendering. -/
def during (within : List String) : Event ρ → List String
  | format path _ => path :: within
  | _ => within

/-- The elements that are being rendered after an event, given those before it. -/
def after (within : List String) : Event ρ → List String
  | format path _ => path :: within
  | decorate _ _ => within.tail
  | _ => within

/-- The events, each with the paths of the elements that are being rendered when it happens,
innermost first. -/
def situated : List String → List (Event ρ) → List (List String × Event ρ)
  | _, [] => []
  | within, event :: rest => (event.during within, event) :: situated (event.after within) rest

@[simp] theorem during_format (within : List String) (path : String) (declared : Element) :
    (format path declared : Event ρ).during within = path :: within := rfl

@[simp] theorem after_format (within : List String) (path : String) (declared : Element) :
    (format path declared : Event ρ).after within = path :: within := rfl

@[simp] theorem during_decorate (within : List String) (built : Instance ρ) (node : Element) :
    (decorate built node).during within = within := rfl

@[simp] theorem after_decorate (within : List String) (built : Instance ρ) (node : Element) :
    (decorate built node).after within = within.tail := rfl

theorem during_of_not_isBracket {event : Event ρ} (quiet : event.isBracket = false)
    (within : List String) : event.during within = within := by
  cases event <;> first | rfl | exact nomatch quiet

theorem after_of_not_isBracket {event : Event ρ} (quiet : event.isBracket = false)
    (within : List String) : event.after within = within := by
  cases event <;> first | rfl | exact nomatch quiet

end Event

/-! ### Nested events -/

/-- Events in which every call of the format hook has its call of the node decorator, at most
`levels` elements deep. -/
inductive Nested : (levels : Nat) → List (Event ρ) → Prop
  | nil {levels : Nat} : Nested levels []
  /-- An event that neither begins nor ends an element. -/
  | quiet {levels : Nat} {event : Event ρ} {rest : List (Event ρ)}
      (quiet : event.isBracket = false) (next : Nested levels rest) :
      Nested levels (event :: rest)
  /-- An element with what happens inside. -/
  | element {levels : Nat} {path : String} {declared node : Element} {built : Instance ρ}
      {inner rest : List (Event ρ)} (inside : Nested levels inner)
      (next : Nested (levels + 1) rest) :
      Nested (levels + 1) (.format path declared :: (inner ++ .decorate built node :: rest))

namespace Nested

variable {levels : Nat} {events more : List (Event ρ)}

/-- Events among which no element begins or ends. -/
theorem of_quiet (quiet : ∀ event ∈ events, event.isBracket = false) :
    Nested levels events := by
  induction events with
  | nil => exact .nil
  | cons event rest ih =>
      obtain ⟨here, later⟩ := List.forall_mem_cons.mp quiet
      exact .quiet here (ih later)

theorem append (first : Nested levels events) (second : Nested levels more) :
    Nested levels (events ++ more) := by
  induction first with
  | nil => exact second
  | quiet h _ ih => exact .quiet h (ih second)
  | element inside _ _ ih =>
      rw [List.cons_append, List.append_assoc, List.cons_append]
      exact .element inside (ih second)

theorem flatten {lists : List (List (Event ρ))}
    (each : ∀ events ∈ lists, Nested levels events) : Nested levels lists.flatten := by
  induction lists with
  | nil => exact .nil
  | cons events rest ih =>
      obtain ⟨here, later⟩ := List.forall_mem_cons.mp each
      exact here.append (ih later)

/-- One element. -/
theorem bracket {path : String} {declared node : Element} {built : Instance ρ}
    (inside : Nested levels events) :
    Nested (levels + 1) (.format path declared :: (events ++ [.decorate built node])) :=
  .element inside .nil

/-- After nested events the same elements are being rendered as before. -/
theorem situated_append (nested : Nested levels events) (within : List String)
    (more : List (Event ρ)) :
    Event.situated within (events ++ more)
      = Event.situated within events ++ Event.situated within more := by
  induction nested generalizing within more with
  | nil => rfl
  | quiet h _ ih =>
      rw [List.cons_append, Event.situated, Event.situated, Event.after_of_not_isBracket h, ih,
        List.cons_append]
  | @element _ path declared node built inner rest _ _ ihInside ihNext =>
      rw [List.cons_append, List.append_assoc, List.cons_append, Event.situated, Event.situated,
        Event.after_format, ihInside, ihInside, Event.situated, Event.situated,
        Event.after_decorate, List.tail_cons, ihNext]
      simp only [List.cons_append, List.append_assoc]

theorem situated_flatten {lists : List (List (Event ρ))}
    (each : ∀ events ∈ lists, Nested levels events) (within : List String) :
    Event.situated within lists.flatten = (lists.map (Event.situated within)).flatten := by
  induction lists with
  | nil => rfl
  | cons events rest ih =>
      obtain ⟨here, later⟩ := List.forall_mem_cons.mp each
      rw [List.flatten_cons, here.situated_append, ih later, List.map_cons, List.flatten_cons]

/-- What happens to one element: its two calls, and in between what happens inside. -/
theorem situated_bracket {path : String} {declared node : Element} {built : Instance ρ}
    (inside : Nested levels events) (within : List String) :
    Event.situated within (.format path declared :: (events ++ .decorate built node :: more))
      = (path :: within, .format path declared)
        :: (Event.situated (path :: within) events
          ++ (path :: within, .decorate built node) :: Event.situated within more) := by
  rw [Event.situated, Event.after_format, inside.situated_append]
  rfl

/-- No more elements are being rendered than the number of levels allows. -/
theorem length_le (nested : Nested levels events) (within : List String) :
    ∀ s ∈ Event.situated within events, s.1.length ≤ within.length + levels := by
  induction nested generalizing within with
  | nil => exact List.forall_mem_nil _
  | quiet h _ ih =>
      rw [Event.situated, Event.during_of_not_isBracket h, Event.after_of_not_isBracket h]
      exact List.forall_mem_cons.mpr ⟨Nat.le_add_right _ _, ih within⟩
  | @element levels path declared node built inner rest inside _ ihInside ihNext =>
      have inner_le := ihInside (path :: within)
      rw [List.length_cons] at inner_le
      rw [inside.situated_bracket]
      refine List.forall_mem_cons.mpr ⟨?_, List.forall_mem_append.mpr
        ⟨fun s hs => ?_, List.forall_mem_cons.mpr ⟨?_, ihNext within⟩⟩⟩
      · rw [List.length_cons]
        omega
      · have := inner_le s hs
        omega
      · rw [List.length_cons]
        omega

end Nested

theorem situated_of_quiet {events : List (Event ρ)}
    (quiet : ∀ event ∈ events, event.isBracket = false) (within : List String) :
    Event.situated within events = events.map fun event => (within, event) := by
  induction events with
  | nil => rfl
  | cons event rest ih =>
      obtain ⟨here, later⟩ := List.forall_mem_cons.mp quiet
      rw [Event.situated, Event.during_of_not_isBracket here, Event.after_of_not_isBracket here,
        ih later, List.map_cons]

/-! ### Reading events -/

/-- What is read off events, each with the elements that are being rendered when it happens. -/
def Event.read (reading : List String × Event ρ → Option β) (within : List String)
    (events : List (Event ρ)) : List β :=
  (Event.situated within events).filterMap reading

section Reading

variable {levels : Nat} {events : List (Event ρ)} (reading : List String × Event ρ → Option β)
  (within : List String)

@[simp] theorem read_nil : Event.read reading within [] = [] := rfl

theorem read_quiet (quiet : ∀ event ∈ events, event.isBracket = false) :
    Event.read reading within events = events.filterMap fun event => reading (within, event) := by
  rw [Event.read, situated_of_quiet quiet, List.filterMap_map]
  rfl

/-- What is read off each event alone does not depend on where it happens. -/
theorem read_snd (reading : Event ρ → Option β) (within : List String)
    (events : List (Event ρ)) :
    Event.read (fun s => reading s.2) within events = events.filterMap reading := by
  induction events generalizing within with
  | nil => rfl
  | cons event rest ih =>
      rw [Event.read, Event.situated, List.filterMap_cons, List.filterMap_cons, ← ih]
      rfl

theorem Nested.read_append (nested : Nested levels events) (more : List (Event ρ)) :
    Event.read reading within (events ++ more)
      = Event.read reading within events ++ Event.read reading within more := by
  rw [Event.read, nested.situated_append, List.filterMap_append]
  rfl

theorem Nested.read_flatten {lists : List (List (Event ρ))}
    (each : ∀ events ∈ lists, Nested levels events) :
    Event.read reading within lists.flatten
      = (lists.map (Event.read reading within)).flatten := by
  rw [Event.read, Nested.situated_flatten each, List.filterMap_flatten, List.map_map]
  rfl

theorem Nested.read_bracket {path : String} {declared node : Element} {built : Instance ρ}
    {more : List (Event ρ)} (inside : Nested levels events) :
    Event.read reading within (.format path declared :: (events ++ .decorate built node :: more))
      = (reading (path :: within, .format path declared)).toList
        ++ (Event.read reading (path :: within) events
        ++ ((reading (path :: within, .decorate built node)).toList
        ++ Event.read reading within more)) := by
  rw [Event.read, inside.situated_bracket, List.filterMap_cons, List.filterMap_append,
    List.filterMap_cons]
  cases reading (path :: within, .format path declared) <;>
    cases reading (path :: within, .decorate built node) <;>
    rfl

end Reading

namespace Scene

/-! ### Renders nest -/

section Lists

variable {levels : Nat} {descend : String → Element → Traced ρ (Instance ρ)}
  (below : ∀ path e, Nested levels (descend path e).events)

include below

theorem nested_renderNode (path : String) (node : Node) :
    Nested levels (renderNode descend path node).events := by
  cases node with
  | text value => exact .nil
  | element e => exact below path e

theorem nested_of_mem_siblings {path : String} {nodes : List Node} :
    ∀ events ∈ nodes.mapIdx fun i node => (renderNode descend (childPath path i) node).events,
      Nested levels events := by
  intro events hevents
  obtain ⟨i, h, rfl⟩ := List.mem_mapIdx.mp hevents
  exact nested_renderNode below _ _

omit below in
theorem events_renderSiblings (path : String) (nodes : List Node) :
    (renderSiblings descend path nodes).events
      = (nodes.mapIdx fun i node => (renderNode descend (childPath path i) node).events).flatten :=
  by rw [renderSiblings, Traced.events_sequence, List.flatMap_def, map_mapIdx]

theorem nested_renderContent (path : String) (content : Content) :
    Nested levels (renderContent descend path content).events := by
  cases content with
  | text value => exact .nil
  | nodes items =>
      rw [renderContent, events_renderSiblings]
      exact .flatten (nested_of_mem_siblings below)

theorem nested_renderChildren (path : String) (content : Option Content) :
    Nested levels (renderChildren descend path content).events := by
  cases content with
  | none => exact .nil
  | some content => exact nested_renderContent below path content

theorem nested_of_mem_slots {path : String} {slots : Fields Content} :
    ∀ events ∈ slots.map fun slot => (renderContent descend path slot.2).events,
      Nested levels events := by
  intro events hevents
  obtain ⟨slot, -, rfl⟩ := List.mem_map.mp hevents
  exact nested_renderContent below path slot.2

omit below in
theorem events_renderSlots (path : String) (slots : Fields Content) :
    (renderSlots descend path slots).events
      = (slots.map fun slot => (renderContent descend path slot.2).events).flatten := by
  rw [renderSlots, Traced.events_sequence, List.flatMap_def, List.map_map]
  rfl

theorem nested_renderSlots (path : String) (slots : Fields Content) :
    Nested levels (renderSlots descend path slots).events := by
  rw [events_renderSlots]
  exact .flatten (nested_of_mem_slots below)

/-! ### Reading lists -/

variable {β : Type} (reading : List String × Event ρ → Option β) (within : List String)

theorem read_renderSiblings (path : String) (nodes : List Node) :
    Event.read reading within (renderSiblings descend path nodes).events
      = (nodes.mapIdx fun i node =>
          Event.read reading within (renderNode descend (childPath path i) node).events).flatten
    := by
  rw [events_renderSiblings, Nested.read_flatten _ _ (nested_of_mem_siblings below), map_mapIdx]

theorem read_renderSlots (path : String) (slots : Fields Content) :
    Event.read reading within (renderSlots descend path slots).events
      = slots.flatMap fun slot =>
          Event.read reading within (renderContent descend path slot.2).events := by
  rw [events_renderSlots, Nested.read_flatten _ _ (nested_of_mem_slots below), List.map_map,
    List.flatMap_def]
  rfl

end Lists

/-! ### One level -/

section Level

variable (scene : Scene ρ) (descend : String → Element → Traced ρ (Instance ρ)) (path : String)

/-- The instance of a formatted element, before it is decorated. -/
def builtOf (node : Element) : Instance ρ :=
  .element (scene.assembled path node (renderSlots descend path node.openSlots).value
    (renderChildren descend path
      (node.chosenChildren scene.settings.legacyPropsChildren)).value)

/-- What happens between the two calls for an element on a level. -/
def inside (node : Element) : List (Event ρ) :=
  scene.reports (node.anomalies.map fun anomaly => ⟨node.component, path, anomaly⟩)
    ++ ([.resolve path node.component (resolve node.component scene.registry scene.settings).kind]
    ++ (scene.reports
      ((resolve node.component scene.registry scene.settings).diagnostic.toList.map (·.atPath path))
    ++ ((renderSlots descend path node.openSlots).events
    ++ ((node.strayInChildren scene.settings.legacyPropsChildren).map .stray
    ++ (renderChildren descend path
      (node.chosenChildren scene.settings.legacyPropsChildren)).events))))

theorem events_truncate (declared : Element) :
    (scene.truncate path declared).events
      = let node := scene.hooks.format path declared
        .format path declared
          :: (scene.reports [⟨node.component, path, .tooDeep scene.settings.maxDepth⟩]
            ++ [.decorate (.element (.empty node.component (node.effectiveKey path))) node]) := by
  simp only [truncate, List.cons_append, List.nil_append]

theorem events_expand (declared : Element) :
    (scene.expand descend path declared).events
      = let node := scene.hooks.format path declared
        .format path declared
          :: (scene.inside descend path node
            ++ [.decorate (scene.builtOf descend path node) node]) := by
  simp only [expand, inside, builtOf, assembled, List.append_assoc, List.cons_append,
    List.nil_append]

theorem not_isBracket_of_mem_reports (diagnostics : List Diagnostic) :
    ∀ event ∈ scene.reports diagnostics, event.isBracket = false := by
  intro event hevent
  obtain ⟨diagnostic, -, rfl⟩ := exists_of_mem_reports hevent
  rfl

theorem not_isBracket_of_mem_stray (values : List Json) :
    ∀ event ∈ values.map (Event.stray (ρ := ρ)), event.isBracket = false := by
  intro event hevent
  obtain ⟨value, -, rfl⟩ := List.mem_map.mp hevent
  rfl

variable {levels : Nat} {descend} (below : ∀ path e, Nested levels (descend path e).events)

include below

theorem nested_inside (node : Element) : Nested levels (scene.inside descend path node) :=
  (Nested.of_quiet (scene.not_isBracket_of_mem_reports _)).append <|
    (Nested.quiet rfl .nil).append <|
    (Nested.of_quiet (scene.not_isBracket_of_mem_reports _)).append <|
    (nested_renderSlots below path _).append <|
    (Nested.of_quiet (not_isBracket_of_mem_stray _)).append <|
    nested_renderChildren below path _

/-- What is read off the events of an element: its two calls, its own reports and the resolution of
its name, its slots, the values that are no component names, and its children. -/
theorem read_inside {β : Type} (reading : List String × Event ρ → Option β)
    (within : List String) (node : Element) :
    Event.read reading within (scene.inside descend path node)
      = (scene.reports
            (node.anomalies.map fun anomaly => ⟨node.component, path, anomaly⟩)).filterMap
          (fun event => reading (within, event))
        ++ ((reading (within, .resolve path node.component
            (resolve node.component scene.registry scene.settings).kind)).toList
        ++ ((scene.reports ((resolve node.component scene.registry
              scene.settings).diagnostic.toList.map (·.atPath path))).filterMap
            (fun event => reading (within, event))
        ++ (Event.read reading within (renderSlots descend path node.openSlots).events
        ++ (((node.strayInChildren scene.settings.legacyPropsChildren).map Event.stray).filterMap
            (fun event => reading (within, event))
        ++ Event.read reading within (renderChildren descend path
            (node.chosenChildren scene.settings.legacyPropsChildren)).events)))) := by
  have reports : ∀ diagnostics, Nested levels (scene.reports diagnostics) :=
    fun _ => .of_quiet (scene.not_isBracket_of_mem_reports _)
  have resolved : Nested levels [Event.resolve (ρ := ρ) path node.component
      (resolve node.component scene.registry scene.settings).kind] := .quiet rfl .nil
  have strays : ∀ values : List Json, Nested levels (values.map (Event.stray (ρ := ρ))) :=
    fun _ => .of_quiet (not_isBracket_of_mem_stray _)
  rw [inside, (reports _).read_append, read_quiet _ _ (scene.not_isBracket_of_mem_reports _),
    resolved.read_append, read_quiet _ _ (List.forall_mem_singleton.mpr rfl),
    (reports _).read_append, read_quiet _ _ (scene.not_isBracket_of_mem_reports _),
    (nested_renderSlots below path _).read_append, (strays _).read_append,
    read_quiet _ _ (not_isBracket_of_mem_stray _)]
  congr 2

end Level

/-- **Renders nest.** An element with a number of levels left nests one element deeper than that,
whatever the hooks do. The induction is on the levels. -/
theorem nested_renderElement (scene : Scene ρ) (level : Nat) (path : String) (declared : Element) :
    Nested (level + 1) (scene.renderElement level path declared).events := by
  induction level generalizing path declared with
  | zero =>
      rw [renderElement, events_truncate]
      exact .bracket (.of_quiet (scene.not_isBracket_of_mem_reports _))
  | succ level ih =>
      rw [renderElement, events_expand]
      exact .bracket (scene.nested_inside path ih _)

/-- However many levels are left, what happens to an element stands between its two calls. -/
theorem exists_events_renderElement (scene : Scene ρ) (level : Nat) (path : String)
    (declared : Element) :
    ∃ inner built, Nested level inner ∧
      (scene.renderElement level path declared).events = .format path declared
        :: (inner ++ [.decorate built (scene.hooks.format path declared)]) := by
  cases level with
  | zero => exact ⟨_, _, .of_quiet (scene.not_isBracket_of_mem_reports _),
      scene.events_truncate path declared⟩
  | succ level => exact ⟨_, _, scene.nested_inside path (scene.nested_renderElement level) _,
      scene.events_expand _ path declared⟩

theorem nested_renderSiblings (scene : Scene ρ) (level : Nat) (path : String)
    (nodes : List Node) :
    Nested (level + 1) (renderSiblings (scene.renderElement level) path nodes).events := by
  rw [events_renderSiblings]
  exact .flatten (nested_of_mem_siblings (scene.nested_renderElement level))

end Scene

/-! ### The elements of the tree -/

/-- The depth and the path of the element for which the format hook is called. -/
def Event.opened? : List String × Event ρ → Option (Nat × String)
  | (within, .format path _) => some (within.length, path)
  | _ => none

/-- The depth and the path of a place. -/
def Place.spot (place : Place ρ) : Nat × String :=
  (place.depth, place.path)

namespace Scene

section Lists

variable {descend : String → Element → Traced ρ (Instance ρ)} {within : List String}
  {levels : Nat} (nested : ∀ path e, Nested levels (descend path e).events)
  (below : ∀ path e, Event.read Event.opened? within (descend path e).events
    = ((descend path e).value.placesAt (within.length + 1) path).map Place.spot)

include below

theorem opened_renderNode (path : String) (node : Node) :
    Event.read Event.opened? within (renderNode descend path node).events
      = ((renderNode descend path node).value.placesAt (within.length + 1) path).map
          Place.spot := by
  cases node with
  | text value => rw [renderNode, Traced.value_silent, placesAt_text]; rfl
  | element e => exact below path e

include nested

theorem opened_renderSiblings (path : String) (nodes : List Node) :
    Event.read Event.opened? within (renderSiblings descend path nodes).events
      = (Instance.placesIn (within.length + 1) path 0
          (renderSiblings descend path nodes).value).map Place.spot := by
  rw [read_renderSiblings nested, value_renderSiblings, placesIn_eq_flatten, List.mapIdx_mapIdx,
    List.map_flatten, map_mapIdx]
  simp only [opened_renderNode below, Nat.zero_add, Function.comp_def]

theorem opened_renderContent (path : String) (content : Content) :
    Event.read Event.opened? within (renderContent descend path content).events
      = (Instance.placesIn (within.length + 1) path 0
          (renderContent descend path content).value).map Place.spot := by
  cases content with
  | text value =>
      rw [renderContent, Traced.value_silent, placesIn_eq_flatten]
      simp
  | nodes items => exact opened_renderSiblings nested below path items

theorem opened_renderChildren (path : String) (content : Option Content) :
    Event.read Event.opened? within (renderChildren descend path content).events
      = (Instance.placesIn (within.length + 1) path 0
          (renderChildren descend path content).value).map Place.spot := by
  cases content with
  | none => rfl
  | some content => exact opened_renderContent nested below path content

theorem opened_renderSlots (path : String) (slots : Fields Content) :
    Event.read Event.opened? within (renderSlots descend path slots).events
      = (Instance.slotPlaces (within.length + 1) path
          (renderSlots descend path slots).value).map Place.spot := by
  rw [read_renderSlots nested, value_renderSlots, slotPlaces_eq_flatMap, List.flatMap_map,
    List.map_flatMap]
  simp only [opened_renderContent nested below]

end Lists

/-- No other event opens an element. -/
theorem opened_of_quiet {events : List (Event ρ)}
    (quiet : ∀ event ∈ events, event.isBracket = false) (within : List String) :
    events.filterMap (fun event => Event.opened? (within, event)) = [] := by
  rw [List.filterMap_eq_nil_iff]
  intro event hevent
  have := quiet event hevent
  cases event <;> first | rfl | exact nomatch this

theorem opened_renderElement {scene : Scene ρ} (plain : scene.hooks.Undecorated) (level : Nat)
    (within : List String) (path : String) (declared : Element) :
    Event.read Event.opened? within (scene.renderElement level path declared).events
      = ((scene.renderElement level path declared).value.placesAt (within.length + 1) path).map
          Place.spot := by
  induction level generalizing within path declared with
  | zero =>
      have quiet := scene.not_isBracket_of_mem_reports
      rw [renderElement, value_truncate path declared plain, events_truncate,
        (Nested.of_quiet (quiet _) : Nested 0 _).read_bracket, read_quiet _ _ (quiet _),
        opened_of_quiet (quiet _), placesAt_element]
      rfl
  | succ level ih =>
      have nested := scene.nested_renderElement level
      have below := ih (path :: within)
      have quiet := scene.not_isBracket_of_mem_reports
      rw [renderElement, value_expand _ path declared plain, events_expand,
        (scene.nested_inside path nested _).read_bracket, scene.read_inside path nested,
        opened_of_quiet (quiet _), opened_of_quiet (quiet _),
        opened_of_quiet (not_isBracket_of_mem_stray _), opened_renderSlots nested below,
        opened_renderChildren nested below, placesAt_element, List.map_cons, List.map_append]
      simp only [Event.opened?, Option.toList_some, Option.toList_none, read_nil, List.nil_append,
        List.append_nil, List.cons_append, List.length_cons]
      rfl

/-- **The elements whose format calls are made are the elements of the tree**, in the same order
and at the same depths and paths. -/
theorem opened_renderRoots {scene : Scene ρ} (plain : scene.hooks.Undecorated)
    (roots : List Node) :
    Event.read Event.opened? [] (scene.renderRoots roots).events
      = (scene.renderRoots roots).value.places.map Place.spot := by
  have nested := scene.nested_renderElement scene.settings.maxDepth
  rw [value_renderRoots plain, Instance.places, placesAt_fragment, renderRoots,
    (scene.nested_renderSiblings _ "" roots).read_append,
    opened_renderSiblings nested (opened_renderElement plain _ [])]
  exact List.append_nil _

end Scene

end ComponentTree
