import ComponentTree.Proofs.Policy.Enforcement

/-!
What a render reports, against the tree that it returns. A `Visit` pairs an element of the rendered
tree with the element of the document that it came from; `Visit.account` is everything there is to
report about it.

* `Renderer.visits` — the visits of a render in the order of a walk, found by going through the
  rendered tree and the document side by side.
* `Joins` — what is said of visits, places and diagnostics and stays true when they are joined;
  `joined_renderSiblings` and its companions carry it from elements to slots and children.
* `Accounted` — visits list exactly the given places, and their accounts are the given diagnostics.
* `diagnostics_eq_accounts` — the diagnostics of a render are the accounts of its visits, in order
  and with nothing else, and the visits are the places of the tree.
* `unrendered_reports` — what renders nothing is reported once for that, and nothing else is;
  `Visit.filter_account_of_drops` is how the reasons for it are picked out of an account.
-/

namespace ComponentTree

variable {ρ : Type}

/-! ### Visits -/

/-- An element of a rendered tree and the element of the document that it came from. -/
structure Visit (ρ : Type) extends Place ρ where
  node : Element

/-- The nodes that content stands for. -/
def Content.members : Content → List Node
  | .text value => [.text value]
  | .nodes items => items

mutual

/-- The visits of an instance that came from a node. Slots are paired in order, children with what
is chosen as children. -/
def Instance.visitsAt (legacy : Bool) (depth : Nat) (path : String) :
    Instance ρ → Node → List (Visit ρ)
  | .element ⟨component, renderable, key, props, slots, children⟩, .element node =>
    ⟨⟨depth, path, ⟨component, renderable, key, props, slots, children⟩⟩, node⟩
      :: (Instance.slotVisits legacy (depth + 1) path slots node.openSlots
        ++ Instance.visitsIn legacy (depth + 1) path 0 children
          ((node.chosenChildren legacy).elim [] Content.members))
  | _, _ => []

/-- The visits of siblings that came from as many nodes; the first has the given index. -/
def Instance.visitsIn (legacy : Bool) (depth : Nat) (parent : String) (index : Nat) :
    List (Instance ρ) → List Node → List (Visit ρ)
  | child :: rest, node :: nodes =>
    child.visitsAt legacy depth (childPath parent index) node
      ++ Instance.visitsIn legacy depth parent (index + 1) rest nodes
  | _, _ => []

/-- The visits of slots that came from as many slots. -/
def Instance.slotVisits (legacy : Bool) (depth : Nat) (parent : String) :
    List (String × List (Instance ρ)) → List (String × Content) → List (Visit ρ)
  | (_, instances) :: rest, (_, content) :: contents =>
    Instance.visitsIn legacy depth parent 0 instances content.members
      ++ Instance.slotVisits legacy depth parent rest contents
  | _, _ => []

end

/-- The visits of a render, in the order of a walk. -/
def Renderer.visits (r : Renderer ρ) : List (Visit ρ) :=
  Instance.visitsIn r.settings.legacyPropsChildren 1 "" 0 r.tree.children r.roots

/-! ### Accounts -/

/-- The places where children can be declared, by precedence. -/
def ChildrenSource.all : List ChildrenSource := [root, renderProps, props]

/-- Whether an element declares children in a place. A prop that is `null` declares nothing. -/
def Element.declares (e : Element) : ChildrenSource → Bool
  | .root => e.children.isSome
  | .renderProps => (e.slot? "children").isSome
  | .props => (e.prop? "children").any (!·.isNull)

theorem childrenSources_eq_filter (e : Element) :
    e.childrenSources = ChildrenSource.all.filter e.declares := by
  unfold Element.childrenSources ChildrenSource.all
  cases h₁ : e.declares .root <;> cases h₂ : e.declares .renderProps <;>
    cases h₃ : e.declares .props <;> simp_all [Element.declares]

namespace Visit

/-- A diagnostic about the element of a visit. -/
def diagnostic (v : Visit ρ) (anomaly : Anomaly) : Diagnostic :=
  ⟨v.element.component, v.path, anomaly⟩

/-- The ignored key among the props; `null` is no key. -/
def ignoredProp (v : Visit ρ) : List Diagnostic :=
  match v.node.prop? "key" with
  | none | some .null => []
  | some value => [v.diagnostic (.ignoredKey .props value.literal)]

/-- The ignored key among the slots. -/
def ignoredSlot (v : Visit ρ) : List Diagnostic :=
  (v.node.slot? "key").toList.map fun content =>
    v.diagnostic (.ignoredKey .renderProps content.describe)

/-- Everything there is to report about the element of a visit, in order. Past the greatest depth
it is the depth alone; else children declared in two places or more, keys that have no effect, and
a name that is not available. -/
def account (limit : Nat) (v : Visit ρ) : List Diagnostic :=
  let sources := ChildrenSource.all.filter v.node.declares
  if v.depth = limit + 1 then [v.diagnostic (.tooDeep limit)]
  else
    (if 2 ≤ sources.length then [v.diagnostic (.ambiguousChildren sources)] else [])
      ++ v.ignoredProp ++ v.ignoredSlot
      ++ (if v.element.renderable.isNull then
          [v.diagnostic (.unavailable
            (!v.element.component.isEmpty && isHtmlLike v.element.component)
            (isCustomElementLike v.element.component))]
        else [])

end Visit

/-! ### Lists that are joined -/

/-- What is said about visits, about places and about diagnostics is said about them joined, too. -/
structure Joins (R : List (Visit ρ) → List (Place ρ) → List Diagnostic → Prop) : Prop where
  nil : R [] [] []
  append : ∀ {visits visits' places places' diagnostics diagnostics'},
    R visits places diagnostics → R visits' places' diagnostics' →
      R (visits ++ visits') (places ++ places') (diagnostics ++ diagnostics')

/-- What is said about each sibling is said about all of them. -/
theorem Joins.flatten_mapIdx {R : List (Visit ρ) → List (Place ρ) → List Diagnostic → Prop}
    (joins : Joins R) {α : Type} {visits : Nat → α → List (Visit ρ)}
    {places : Nat → α → List (Place ρ)} {diagnostics : Nat → α → List Diagnostic}
    (each : ∀ i a, R (visits i a) (places i a) (diagnostics i a)) (list : List α) :
    R (list.mapIdx visits).flatten (list.mapIdx places).flatten
      (list.mapIdx diagnostics).flatten := by
  induction list generalizing visits places diagnostics with
  | nil => exact joins.nil
  | cons a rest ih =>
      simp only [List.mapIdx_cons, List.flatten_cons]
      exact joins.append (each 0 a) (ih fun i => each (i + 1))

/-! ### Accounted lists -/

/-- Visits list exactly the given places, each of an element that was built of its node, and their
accounts are the given diagnostics. -/
structure Accounted (limit : Nat) (visits : List (Visit ρ)) (places : List (Place ρ))
    (diagnostics : List Diagnostic) : Prop where
  places_eq : visits.map (·.toPlace) = places
  origin : ∀ v ∈ visits,
    v.element.component = v.node.component ∧ v.element.key = v.node.effectiveKey v.path
  diagnostics_eq : diagnostics = visits.flatMap (·.account limit)

namespace Accounted

variable {limit : Nat} {visits visits' : List (Visit ρ)} {places places' : List (Place ρ)}
  {diagnostics diagnostics' : List Diagnostic}

theorem nil : Accounted limit ([] : List (Visit ρ)) [] [] :=
  ⟨rfl, List.forall_mem_nil _, rfl⟩

theorem append (h : Accounted limit visits places diagnostics)
    (h' : Accounted limit visits' places' diagnostics') :
    Accounted limit (visits ++ visits') (places ++ places') (diagnostics ++ diagnostics') where
  places_eq := by rw [List.map_append, h.places_eq, h'.places_eq]
  origin v hv := (List.mem_append.mp hv).elim (h.origin v) (h'.origin v)
  diagnostics_eq := by rw [List.flatMap_append, h.diagnostics_eq, h'.diagnostics_eq]

theorem cons {v : Visit ρ}
    (origin : v.element.component = v.node.component ∧
      v.element.key = v.node.effectiveKey v.path)
    (h : Accounted limit visits places diagnostics) :
    Accounted limit (v :: visits) (v.toPlace :: places) (v.account limit ++ diagnostics) where
  places_eq := by rw [List.map_cons, h.places_eq]
  origin := List.forall_mem_cons.mpr ⟨origin, h.origin⟩
  diagnostics_eq := by rw [List.flatMap_cons, h.diagnostics_eq]

theorem joins : Joins (@Accounted ρ limit) :=
  ⟨nil, append⟩

end Accounted

/-! ### Renders are accounted for -/

@[simp] theorem visitsAt_text {legacy : Bool} {depth : Nat} {path : String} (value : String)
    (node : Node) : (Instance.text value : Instance ρ).visitsAt legacy depth path node = [] := by
  rw [Instance.visitsAt]
  exact fun _ _ _ _ _ _ _ h => nomatch h

theorem visitsAt_element {legacy : Bool} {depth : Nat} {path : String} (e : RenderedElement ρ)
    (node : Element) :
    (Instance.element e).visitsAt legacy depth path (.element node)
      = ⟨⟨depth, path, e⟩, node⟩
        :: (Instance.slotVisits legacy (depth + 1) path e.slots node.openSlots
          ++ Instance.visitsIn legacy (depth + 1) path 0 e.children
            ((node.chosenChildren legacy).elim [] Content.members)) := by
  cases e
  rw [Instance.visitsAt]

/-- When the instances are made of the nodes one by one, the visits are found one by one. -/
theorem visitsIn_mapIdx {legacy : Bool} {depth : Nat} {parent : String}
    (make : Nat → Node → Instance ρ) (nodes : List Node) (index : Nat) :
    Instance.visitsIn legacy depth parent index (nodes.mapIdx fun i => make (index + i)) nodes
      = (nodes.mapIdx fun i node =>
          (make (index + i) node).visitsAt legacy depth (childPath parent (index + i)) node).flatten
    := by
  induction nodes generalizing index with
  | nil => rfl
  | cons node rest ih =>
      have shift := ih (index + 1)
      simp only [Nat.add_right_comm index 1, Nat.add_assoc] at shift
      rw [List.mapIdx_cons, Instance.visitsIn, List.mapIdx_cons, List.flatten_cons]
      simp only [Nat.add_zero]
      rw [shift]

namespace Scene

section Lists

variable {legacy : Bool} {depth : Nat}
  {descend : String → Element → Traced ρ (Instance ρ)} {path : String}

/-- The visits of rendered siblings are those of each sibling, with the node that it came from. -/
theorem visitsIn_renderSiblings (nodes : List Node) :
    Instance.visitsIn legacy depth path 0 (renderSiblings descend path nodes).value nodes
      = (nodes.mapIdx fun i node =>
          (renderNode descend (childPath path i) node).value.visitsAt legacy depth
            (childPath path i) node).flatten := by
  have visits := @visitsIn_mapIdx ρ legacy depth path
    (fun i node => (renderNode descend (childPath path i) node).value) nodes 0
  simp only [Nat.zero_add] at visits
  rw [value_renderSiblings, visits]

/-- The visits of rendered slots are those of each slot, with the content that it came from. -/
theorem slotVisits_renderSlots (slots : Fields Content) :
    Instance.slotVisits legacy depth path (renderSlots descend path slots).value slots
      = slots.flatMap fun slot =>
          Instance.visitsIn legacy depth path 0 (renderContent descend path slot.2).value
            slot.2.members := by
  rw [value_renderSlots]
  induction slots with
  | nil => rfl
  | cons slot rest ih => rw [List.map_cons, Instance.slotVisits, ih, List.flatMap_cons]

variable {R : List (Visit ρ) → List (Place ρ) → List Diagnostic → Prop} (joins : Joins R)
  (below : ∀ path e, R ((descend path e).value.visitsAt legacy depth path (.element e))
    ((descend path e).value.placesAt depth path) (descend path e).diagnostics)

include joins below

theorem joined_renderNode (path : String) (node : Node) :
    R ((renderNode descend path node).value.visitsAt legacy depth path node)
      ((renderNode descend path node).value.placesAt depth path)
      (renderNode descend path node).diagnostics := by
  cases node with
  | text value =>
      rw [renderNode, Traced.value_silent, Traced.diagnostics_silent, placesAt_text, visitsAt_text]
      exact joins.nil
  | element e => exact below path e

theorem joined_renderSiblings (nodes : List Node) :
    R (Instance.visitsIn legacy depth path 0 (renderSiblings descend path nodes).value nodes)
      (Instance.placesIn depth path 0 (renderSiblings descend path nodes).value)
      (renderSiblings descend path nodes).diagnostics := by
  rw [diagnostics_renderSiblings, visitsIn_renderSiblings, value_renderSiblings,
    placesIn_eq_flatten, List.mapIdx_mapIdx]
  simp only [Nat.zero_add]
  exact joins.flatten_mapIdx
    (fun i node => joined_renderNode joins below (childPath path i) node) nodes

theorem joined_renderContent (content : Content) :
    R (Instance.visitsIn legacy depth path 0 (renderContent descend path content).value
        content.members)
      (Instance.placesIn depth path 0 (renderContent descend path content).value)
      (renderContent descend path content).diagnostics := by
  cases content with
  | text value =>
      simp only [renderContent, Content.members, Traced.value_silent, Traced.diagnostics_silent,
        Instance.visitsIn, Instance.placesIn, visitsAt_text, placesAt_text, List.nil_append]
      exact joins.nil
  | nodes items => exact joined_renderSiblings joins below items

theorem joined_renderChildren (content : Option Content) :
    R (Instance.visitsIn legacy depth path 0 (renderChildren descend path content).value
        (content.elim [] Content.members))
      (Instance.placesIn depth path 0 (renderChildren descend path content).value)
      (renderChildren descend path content).diagnostics := by
  cases content with
  | none => exact joins.nil
  | some content => exact joined_renderContent joins below content

theorem joined_renderSlots (slots : Fields Content) :
    R (Instance.slotVisits legacy depth path (renderSlots descend path slots).value slots)
      (Instance.slotPlaces depth path (renderSlots descend path slots).value)
      (renderSlots descend path slots).diagnostics := by
  rw [slotVisits_renderSlots, value_renderSlots, diagnostics_renderSlots, slotPlaces_eq_flatMap,
    List.flatMap_map]
  induction slots with
  | nil => exact joins.nil
  | cons slot rest ih =>
      rw [List.flatMap_cons, List.flatMap_cons, List.flatMap_cons]
      exact joins.append (joined_renderContent joins below slot.2) ih

end Lists

/-- The elements below a level are accounted for, with everything in them. -/
def AccountedBelow (legacy : Bool) (limit depth : Nat)
    (descend : String → Element → Traced ρ (Instance ρ)) : Prop :=
  ∀ path e, Accounted limit ((descend path e).value.visitsAt legacy depth path (.element e))
    ((descend path e).value.placesAt depth path) (descend path e).diagnostics

variable {scene : Scene ρ}

/-- What an expanded element is reported for, before its slots and children, is its account. -/
theorem account_assembled {depth : Nat} {path : String} {node : Element}
    {slots : Fields (List (Instance ρ))} {children : List (Instance ρ)}
    (messages : scene.settings.displayErrorMessage = true)
    (within : depth ≤ scene.settings.maxDepth) :
    (⟨⟨depth, path, scene.assembled path node slots children⟩, node⟩ : Visit ρ).account
        scene.settings.maxDepth
      = (node.anomalies.map fun anomaly => ⟨node.component, path, anomaly⟩)
        ++ (resolve node.component scene.registry scene.settings).diagnostic.toList.map
          (·.atPath path) := by
  have shallow : depth ≠ scene.settings.maxDepth + 1 := by omega
  rw [diagnostic_resolve, messages, Bool.and_true]
  simp only [Visit.account, if_neg shallow, Element.anomalies, childrenSources_eq_filter,
    List.map_append]
  congr 1
  · congr 1
    · congr 1
      · split
        · next two => rw [if_pos (by omega)]; rfl
        · next one => rw [if_neg (by omega)]; rfl
      · unfold Visit.ignoredProp
        cases node.prop? "key" with
        | none => rfl
        | some value => cases value <;> rfl
    · unfold Visit.ignoredSlot
      cases node.slot? "key" with
      | none => rfl
      | some content => rfl
  · rw [assembled_renderable]
    split <;> rfl

variable (plain : scene.hooks.Undecorated) (unformatted : ∀ path e, scene.hooks.format path e = e)
  (messages : scene.settings.displayErrorMessage = true)

include plain unformatted messages

theorem accounted_truncate (path : String) (e : Element) :
    Accounted scene.settings.maxDepth
      ((scene.truncate path e).value.visitsAt scene.settings.legacyPropsChildren
        (scene.settings.maxDepth + 1) path (.element e))
      ((scene.truncate path e).value.placesAt (scene.settings.maxDepth + 1) path)
      (scene.truncate path e).diagnostics := by
  have cutOff :
      (⟨⟨scene.settings.maxDepth + 1, path, .empty e.component (e.effectiveKey path)⟩, e⟩ :
        Visit ρ).account scene.settings.maxDepth
      = [⟨e.component, path, .tooDeep scene.settings.maxDepth⟩] := if_pos rfl
  rw [value_truncate path e plain, diagnostics_truncate, if_pos messages, unformatted, ← cutOff,
    ← List.append_nil (Visit.account _ _)]
  dsimp only
  rw [visitsAt_element, placesAt_element]
  exact .cons ⟨rfl, rfl⟩ .nil

theorem accounted_expand {depth : Nat} {descend : String → Element → Traced ρ (Instance ρ)}
    (within : depth ≤ scene.settings.maxDepth)
    (below : AccountedBelow scene.settings.legacyPropsChildren scene.settings.maxDepth (depth + 1)
      descend) :
    AccountedBelow scene.settings.legacyPropsChildren scene.settings.maxDepth depth
      (scene.expand descend) := by
  intro path e
  rw [value_expand descend path e plain, diagnostics_expand, unformatted]
  simp only [messages, if_true]
  rw [← account_assembled messages within, List.append_assoc, visitsAt_element, placesAt_element]
  refine .cons ⟨rfl, rfl⟩ (.append ?_ ?_)
  · exact joined_renderSlots Accounted.joins below e.openSlots
  · exact joined_renderChildren Accounted.joins below _

/-- One element with everything in it is accounted for. The induction is on the levels that are
left. -/
theorem accounted_renderElement {level depth : Nat}
    (total : depth + level = scene.settings.maxDepth + 1) :
    AccountedBelow scene.settings.legacyPropsChildren scene.settings.maxDepth depth
      (scene.renderElement level) := by
  induction level generalizing depth with
  | zero =>
      obtain rfl : depth = scene.settings.maxDepth + 1 := total
      exact accounted_truncate plain unformatted messages
  | succ level ih =>
      exact accounted_expand plain unformatted messages (by omega) (ih (by omega))

end Scene

/-- The render of a document is accounted for. -/
theorem accounted_render (r : Renderer ρ) (identity : r.hooks = .none)
    (messages : r.settings.displayErrorMessage = true) :
    Accounted r.settings.maxDepth r.visits r.tree.places r.diagnostics := by
  have plain : r.hooks.Undecorated := identity ▸ Hooks.undecorated_none
  have unformatted : ∀ path e, r.hooks.format path e = e := by
    intro path e
    rw [identity]
    rfl
  rw [Renderer.visits, Renderer.diagnostics, Renderer.tree, Renderer.render,
    Scene.value_renderRoots plain, Scene.diagnostics_renderRoots, Instance.places,
    placesAt_fragment]
  exact Scene.joined_renderSiblings Accounted.joins
    (Scene.accounted_renderElement plain unformatted messages (Nat.add_comm 1 _)) r.roots

/-! ### What renders nothing -/

/-- Whether an anomaly is the reason why an element renders nothing. -/
def Anomaly.isUnrendered : Anomaly → Bool
  | .unavailable _ _ | .tooDeep _ => true
  | .ambiguousChildren _ | .ignoredKey _ _ => false

/-- Of an account, a filter that passes over children declared twice and keys without effect only
sees the reason why the element renders nothing, if it does. -/
theorem Visit.filter_account_of_drops {p : Diagnostic → Bool} {limit : Nat} {v : Visit ρ}
    (drops : ∀ d : Diagnostic, d.anomaly.isUnrendered = false → p d = false) :
    (v.account limit).filter p
      = (if v.depth = limit + 1 then [v.diagnostic (.tooDeep limit)]
        else if v.element.renderable.isNull then
          [v.diagnostic (.unavailable
            (!v.element.component.isEmpty && isHtmlLike v.element.component)
            (isCustomElementLike v.element.component))]
        else []).filter p := by
  have dropped : ∀ d : Diagnostic, d.anomaly.isUnrendered = false → [d].filter p = [] := by
    intro d h
    rw [List.filter_cons_of_neg (Bool.eq_false_iff.mp (drops d h)), List.filter_nil]
  have ambiguous : ∀ sources,
      (if 2 ≤ sources.length then [v.diagnostic (.ambiguousChildren sources)] else []).filter p
        = [] := by
    intro sources
    split
    · exact dropped _ rfl
    · rfl
  have prop : v.ignoredProp.filter p = [] := by
    unfold Visit.ignoredProp
    split
    · rfl
    · rfl
    · exact dropped _ rfl
  have slot : v.ignoredSlot.filter p = [] := by
    unfold Visit.ignoredSlot
    cases v.node.slot? "key" with
    | none => rfl
    | some content => exact dropped _ rfl
  unfold Visit.account
  by_cases hdepth : v.depth = limit + 1
  · rw [if_pos hdepth, if_pos hdepth]
  · rw [if_neg hdepth, if_neg hdepth]
    simp only [List.filter_append, ambiguous, prop, slot, List.nil_append]

/-- Of the account of an element, at most one diagnostic says that it renders nothing, and that one
is there exactly when it does. -/
theorem filter_account {limit : Nat} {v : Visit ρ}
    (deep : v.depth = limit + 1 → v.element.renderable.isNull = true) :
    ((v.account limit).filter (·.anomaly.isUnrendered)).map (fun d => (d.component, d.path))
      = if v.element.renderable.isNull then [(v.element.component, v.path)] else [] := by
  rw [Visit.filter_account_of_drops fun d h => h]
  by_cases hdepth : v.depth = limit + 1
  · rw [if_pos hdepth, if_pos (deep hdepth)]
    rfl
  · rw [if_neg hdepth]
    split <;> rfl

theorem filter_accounts {limit : Nat} {visits : List (Visit ρ)}
    (deep : ∀ v ∈ visits, v.depth = limit + 1 → v.element.renderable.isNull = true) :
    ((visits.flatMap (·.account limit)).filter (·.anomaly.isUnrendered)).map
        (fun d => (d.component, d.path))
      = ((visits.map (·.toPlace)).filter (·.element.renderable.isNull)).map
          (fun place => (place.element.component, place.path)) := by
  induction visits with
  | nil => rfl
  | cons v rest ih =>
      obtain ⟨deepHere, deepRest⟩ := List.forall_mem_cons.mp deep
      rw [List.flatMap_cons, List.filter_append, List.map_append, filter_account deepHere,
        ih deepRest, List.map_cons, List.filter_cons]
      split <;> rfl

/-- **What renders nothing is reported once.** In the order of a walk, the diagnostics that say that
an element renders nothing are about exactly the elements of the tree that do. -/
theorem unrendered_reports (r : Renderer ρ) (identity : r.hooks = .none)
    (messages : r.settings.displayErrorMessage = true) :
    (r.diagnostics.filter (·.anomaly.isUnrendered)).map (fun d => (d.component, d.path))
      = (r.tree.places.filter (·.element.renderable.isNull)).map
          (fun place => (place.element.component, place.path)) := by
  have accounted := accounted_render r identity messages
  have plain : r.hooks.Undecorated := identity ▸ Hooks.undecorated_none
  rw [accounted.diagnostics_eq, ← accounted.places_eq]
  refine filter_accounts fun v hv deep => ?_
  have hplace : v.toPlace ∈ r.tree.places := accounted.places_eq ▸ List.mem_map_of_mem hv
  exact (Scene.made_of_mem_places plain r.roots v.toPlace hplace).isNull_of_deep deep

/-- **Every diagnostic is accounted for.** With messages on and no hooks, the visits of a render
are the places of its tree, each with the element of the document that it was built of; the
diagnostics are the accounts of the visits, in order and with nothing else; and those that say that
an element renders nothing are about exactly the elements of the tree that do. -/
theorem diagnostics_eq_accounts (r : Renderer ρ) (identity : r.hooks = .none)
    (messages : r.settings.displayErrorMessage = true) :
    r.visits.map (·.toPlace) = r.tree.places ∧
      (∀ v ∈ r.visits,
        v.element.component = v.node.component ∧ v.element.key = v.node.effectiveKey v.path) ∧
      r.diagnostics = r.visits.flatMap (·.account r.settings.maxDepth) ∧
      (r.diagnostics.filter (·.anomaly.isUnrendered)).map (fun d => (d.component, d.path))
        = (r.tree.places.filter (·.element.renderable.isNull)).map
            (fun place => (place.element.component, place.path)) := by
  have accounted := accounted_render r identity messages
  exact ⟨accounted.places_eq, accounted.origin, accounted.diagnostics_eq,
    unrendered_reports r identity messages⟩

/-- A document two levels too deep at one place, with children declared twice, an ignored key and
an unknown name. -/
theorem diagnostics_eq_accounts_nested :
    let r : Renderer String :=
      { registry := .ofEntries .preserve [("Card", "card")]
        settings := { maxDepth := 1 }
        hooks := .none
        roots := [.element
          { component := "Card"
            key := some "k"
            children := some (.nodes [.element { component := "p" }])
            props := [("children", .string "x"), ("key", .string "y")] },
          .element { component := "q", key := some "l" }] }
    r.hooks = .none ∧ r.settings.displayErrorMessage = true ∧
      r.diagnostics =
        [⟨"Card", "0", .ambiguousChildren [.root, .props]⟩, ⟨"Card", "0", .ignoredKey .props "y"⟩,
          ⟨"p", "0.0", .tooDeep 1⟩, ⟨"q", "1", .unavailable true false⟩] ∧
      r.diagnostics = r.visits.flatMap (·.account r.settings.maxDepth) :=
  ⟨rfl, rfl, by decide, (diagnostics_eq_accounts _ rfl rfl).2.2.1⟩

end ComponentTree
