import ComponentTree.Proofs.Options.Resolution
import ComponentTree.Proofs.Render.Accounting
import ComponentTree.Proofs.Render.Comparison

/-!
Options that admit more. Wider options turn elements that render nothing into tags of their declared
names, and change nothing else about a render.

* `Options.Widens` — options that admit at least as much and are otherwise the same;
  `permits_of_widens` — they permit every name that the narrower ones permit.
* `renderable_resolve_of_permits` — what wider settings make of a name, against what narrower ones
  make of it.
* `Settings.Promotes` — the elements that wider settings turn into tags; `Settings.Withdraws` — the
  diagnostics that are gone for it.
* `mirrors_renderElement_widened` — one element with everything in it; `render_widened` — documents.
-/

namespace ComponentTree

variable {ρ : Type}

/-! ### Wider options -/

/-- Options that admit at least as much as others: the flags that are on stay on, and the allowed
names are all names, or take the place of none, or make a longer list. The rest is the same. -/
structure Options.Widens (o o' : Options) : Prop where
  html : o.allowUnsecureHtmlElement = true → o'.allowUnsecureHtmlElement = true
  customElement : o.allowUnsecureCustomElement = true → o'.allowUnsecureCustomElement = true
  elements : o'.allowUnsecureElements = .all true ∨ o.allowUnsecureElements = .all false ∨
    ∃ names names', o.allowUnsecureElements = .listed names ∧
      o'.allowUnsecureElements = .listed names' ∧ names ⊆ names'
  displayErrorMessage : o'.displayErrorMessage = o.displayErrorMessage
  legacyPropsChildren : o'.legacyPropsChildren = o.legacyPropsChildren
  componentKeyCase : o'.componentKeyCase = o.componentKeyCase
  maxDepth : o'.maxDepth = o.maxDepth

/-- Options that are accepted are accepted as they are. -/
theorem settings_of_resolve {o : Options} {s : Settings} (resolved : o.resolve = .ok s) :
    s = o.settings :=
  (resolve_eq_ok_iff.mp resolved).2.symm

section Widens

variable {o o' : Options} (widens : o.Widens o')

include widens

theorem isWildcard_of_widens (all : o.allowUnsecureElements.isWildcard = true) :
    o'.allowUnsecureElements.isWildcard = true := by
  rcases widens.elements with every | none | ⟨_, _, listed, _, _⟩
  · rw [every]
    rfl
  · rw [none] at all
    exact nomatch all
  · rw [listed] at all
    exact nomatch all

theorem names_of_widens {name : String} (listed : name ∈ o.allowUnsecureElements.names) :
    o'.allowUnsecureElements.isWildcard = true ∨ name ∈ o'.allowUnsecureElements.names := by
  rcases widens.elements with every | none | ⟨names, names', isNames, isNames', sub⟩
  · rw [every]
    exact .inl rfl
  · rw [none] at listed
    exact absurd listed List.not_mem_nil
  · rw [isNames] at listed
    rw [isNames']
    exact .inr (sub listed)

/-- Wider options permit every name that the narrower ones permit. -/
theorem permits_of_widens {name : String} (permitted : o.settings.Permits name) :
    o'.settings.Permits name := by
  have flag : ∀ {b b' : Bool}, (b = true → b' = true) →
      (b || o.allowUnsecureElements.isWildcard) = true →
        (b' || o'.allowUnsecureElements.isWildcard) = true := by
    intro b b' kept on
    rw [Bool.or_eq_true] at on ⊢
    exact on.imp kept (isWildcard_of_widens widens)
  rcases permitted with (all | listed) | ⟨hyphen, on⟩ | ⟨plain, on⟩
  · exact .inl (.inl (isWildcard_of_widens widens all))
  · exact .inl (names_of_widens widens listed)
  · exact .inr (.inl ⟨hyphen, flag widens.customElement on⟩)
  · exact .inr (.inr ⟨plain, flag widens.html on⟩)

end Widens

/-! ### One name -/

section Name

variable (name : String) (registry : Registry ρ) {settings wider : Settings}

/-- A name renders with its component, or as a tag if it is permitted, or not at all. -/
theorem renderable_resolve :
    (resolve name registry settings).renderable
      = match registry.get? name with
        | some reference => .component reference
        | none => if name ≠ "" ∧ settings.Permits name then .tag name else .null := by
  cases registered : registry.get? name with
  | some reference => exact resolve_component_iff.mpr registered
  | none =>
      by_cases permitted : name ≠ "" ∧ settings.Permits name
      · rw [resolve_tag_iff.mpr ⟨rfl, registered, permitted⟩]
        exact (if_pos permitted).symm
      · rw [resolve_null_iff.mpr ⟨registered, permitted⟩]
        exact (if_neg permitted).symm

variable (permits : settings.Permits name → wider.Permits name)

include permits

/-- Wider settings make a tag of a name that narrower ones make nothing of, if they permit it, and
agree on every other name. -/
theorem renderable_resolve_of_permits :
    (resolve name registry wider).renderable
      = if (resolve name registry settings).renderable.isNull = true ∧ name ≠ "" ∧
            wider.Permits name then .tag name
        else (resolve name registry settings).renderable := by
  rw [renderable_resolve, renderable_resolve]
  cases registry.get? name with
  | some reference => rfl
  | none =>
      dsimp only
      by_cases narrow : name ≠ "" ∧ settings.Permits name
      · rw [if_pos narrow, if_pos ⟨narrow.1, permits narrow.2⟩]
        rfl
      · rw [if_neg narrow]
        simp only [Renderable.isNull, true_and]

theorem isNull_resolve_of_permits :
    (resolve name registry wider).renderable.isNull = true ↔
      (resolve name registry settings).renderable.isNull = true ∧
        ¬(name ≠ "" ∧ wider.Permits name) := by
  rw [renderable_resolve_of_permits name registry permits]
  split
  · next promoted => simp [Renderable.isNull, promoted]
  · next kept =>
      constructor
      · exact fun null => ⟨null, fun h => kept ⟨null, h⟩⟩
      · exact fun h => h.1

end Name

/-! ### Elements and diagnostics -/

/-- The anomaly of a name that is not available. -/
def Anomaly.isUnavailable : Anomaly → Bool
  | .unavailable _ _ => true
  | .ambiguousChildren _ | .ignoredKey _ _ | .tooDeep _ => false

theorem not_isUnavailable_of_mem_anomalies {node : Element} :
    ∀ anomaly ∈ node.anomalies, anomaly.isUnavailable = false := by
  intro anomaly h
  unfold Element.anomalies at h
  rw [List.mem_append, List.mem_append] at h
  rcases h with (ambiguous | prop) | slot
  · split at ambiguous
    · obtain rfl := List.mem_singleton.mp ambiguous
      rfl
    · exact absurd ambiguous List.not_mem_nil
  · split at prop
    · exact absurd prop List.not_mem_nil
    · split at prop
      · exact absurd prop List.not_mem_nil
      · obtain rfl := List.mem_singleton.mp prop
        rfl
  · split at slot
    · exact absurd slot List.not_mem_nil
    · obtain rfl := List.mem_singleton.mp slot
      rfl

namespace Settings

/-- An element that renders nothing under narrower settings is a tag under these: it is not too
deep, its name is not empty, and the name is permitted. -/
def Promotes (s : Settings) (depth : Nat) (e : RenderedElement ρ) : Prop :=
  e.renderable.isNull = true ∧ depth ≤ s.maxDepth ∧ e.component ≠ "" ∧ s.Permits e.component

instance (s : Settings) (depth : Nat) (e : RenderedElement ρ) : Decidable (s.Promotes depth e) :=
  inferInstanceAs (Decidable (_ ∧ _ ∧ _ ∧ _))

/-- The element under these settings: what is promoted becomes a tag of its declared name, and the
rest of it stays. -/
def promote (s : Settings) (depth : Nat) (e : RenderedElement ρ) : RenderedElement ρ :=
  if s.Promotes depth e then { e with renderable := .tag e.component } else e

/-- A diagnostic that a name is not available is withdrawn if these settings permit the name. -/
def Withdraws (s : Settings) (d : Diagnostic) : Prop :=
  d.anomaly.isUnavailable = true ∧ d.component ≠ "" ∧ s.Permits d.component

instance (s : Settings) (d : Diagnostic) : Decidable (s.Withdraws d) :=
  inferInstanceAs (Decidable (_ ∧ _ ∧ _))

/-- What is handed over at an event under these settings. -/
def keptReport? (s : Settings) (event : List String × Event ρ) : Option Diagnostic :=
  event.2.diagnostic?.filter fun d => !decide (s.Withdraws d)

/-- Of reports, what is not withdrawn is kept. -/
theorem filterMap_keptReport? (s : Settings) (within : List String)
    (diagnostics : List Diagnostic) :
    diagnostics.filterMap (fun d => s.keptReport? (within, .report (ρ := ρ) d))
      = diagnostics.filter fun d => !decide (s.Withdraws d) := by
  rw [← List.filterMap_eq_filter]
  rfl

/-- What is handed over under these settings is what the events say, less what is withdrawn. -/
theorem read_keptReport? (s : Settings) (within : List String) (events : List (Event ρ)) :
    Event.read s.keptReport? within events
      = (events.filterMap Event.diagnostic?).filter fun d => !decide (s.Withdraws d) := by
  rw [List.filter_filterMap]
  exact read_snd (fun event => event.diagnostic?.filter _) within events

end Settings

/-! ### Renders -/

namespace Scene

/-- Two scenes without hooks that differ in their settings, of which the second are wider. -/
structure WidenedTo (scene wider : Scene ρ) : Prop where
  plain : scene.hooks.Undecorated
  hooks : wider.hooks = scene.hooks
  registry : wider.registry = scene.registry
  permits : ∀ name, scene.settings.Permits name → wider.settings.Permits name
  displayErrorMessage :
    wider.settings.displayErrorMessage = scene.settings.displayErrorMessage
  legacyPropsChildren :
    wider.settings.legacyPropsChildren = scene.settings.legacyPropsChildren
  maxDepth : wider.settings.maxDepth = scene.settings.maxDepth

variable {scene wider : Scene ρ} (widened : scene.WidenedTo wider)

include widened

theorem WidenedTo.alike : wider.Alike scene where
  format := by rw [widened.hooks]
  legacy := widened.legacyPropsChildren
  messages := widened.displayErrorMessage
  plain := widened.hooks ▸ widened.plain
  plain' := widened.plain

/-- Before the greatest depth, the element that is built is promoted. -/
theorem promote_assembled {depth : Nat} (within : depth ≤ scene.settings.maxDepth)
    (path : String) (node : Element) (slots : Fields (List (Instance ρ)))
    (children : List (Instance ρ)) :
    wider.settings.promote depth (scene.assembled path node slots children)
      = wider.assembled path node slots children := by
  have within' : depth ≤ wider.settings.maxDepth := widened.maxDepth ▸ within
  have renderable := renderable_resolve_of_permits node.component scene.registry
    (widened.permits node.component)
  simp only [Settings.promote, Settings.Promotes, assembled, widened.registry, renderable, within',
    true_and]
  split <;> rfl

/-- The report of a name under narrower settings is withdrawn, or it is made under wider ones. -/
theorem filterMap_keptReport?_name (path component : String) (within : List String) :
    ((resolve component scene.registry scene.settings).diagnostic.toList.map
        (·.atPath path)).filterMap
        (fun diagnostic => wider.settings.keptReport? (within, .report (ρ := ρ) diagnostic))
      = (resolve component wider.registry wider.settings).diagnostic.toList.map
          (·.atPath path) := by
  have null := isNull_resolve_of_permits component scene.registry (widened.permits component)
  rw [diagnostic_resolve, diagnostic_resolve, widened.registry, widened.displayErrorMessage]
  cases scene.settings.displayErrorMessage with
  | false => simp only [Bool.and_false]; rfl
  | true =>
      simp only [Bool.and_true]
      by_cases narrow : (resolve component scene.registry scene.settings).renderable.isNull = true
      · have withdrawn : wider.settings.Withdraws
            ((Diagnostic.ofUnavailable component).atPath path) ↔
            component ≠ "" ∧ wider.settings.Permits component := by
          exact ⟨fun h => h.2, fun h => ⟨rfl, h⟩⟩
        rw [if_pos narrow, Option.toList_some, List.map_singleton, Settings.filterMap_keptReport?,
          List.filter_cons, List.filter_nil]
        by_cases promoted : component ≠ "" ∧ wider.settings.Permits component
        · rw [decide_eq_true (withdrawn.mpr promoted), if_neg fun h => (null.mp h).2 promoted]
          rfl
        · rw [decide_eq_false (mt withdrawn.mp promoted), if_pos (null.mpr ⟨narrow, promoted⟩)]
          rfl
      · rw [if_neg narrow, if_neg fun h => narrow (null.mp h).1]
        rfl

omit widened in
/-- What is wrong with an element otherwise is reported as before. -/
theorem filterMap_keptReport?_anomalies (path : String) (node : Element) (within : List String) :
    (node.anomalies.map fun anomaly => ⟨node.component, path, anomaly⟩).filterMap
        (fun diagnostic => wider.settings.keptReport? (within, .report (ρ := ρ) diagnostic))
      = node.anomalies.map fun anomaly => ⟨node.component, path, anomaly⟩ := by
  rw [Settings.filterMap_keptReport?, List.filter_eq_self]
  intro d hd
  obtain ⟨anomaly, hanomaly, rfl⟩ := List.mem_map.mp hd
  have available := not_isUnavailable_of_mem_anomalies anomaly hanomaly
  simp only [Settings.Withdraws, available, Bool.false_eq_true, false_and, decide_false,
    Bool.not_false]

theorem mirrors_truncate_widened {within : List String}
    (past : within.length = scene.settings.maxDepth) (path : String) (declared : Element) :
    Mirrors wider.settings.promote wider.settings.keptReport? within
      (wider.truncate path declared) (scene.truncate path declared) where
  value := by
    have deep : ¬within.length + 1 ≤ wider.settings.maxDepth := by rw [widened.maxDepth]; omega
    rw [value_truncate _ _ widened.alike.plain, value_truncate _ _ widened.plain,
      mapElements_element, Settings.promote, if_neg fun h => deep h.2.1, widened.hooks]
    rfl
  diagnostics := by
    have kept : ¬wider.settings.Withdraws
        ⟨(scene.hooks.format path declared).component, path, .tooDeep scene.settings.maxDepth⟩ :=
      fun h => nomatch h.1
    rw [Settings.read_keptReport?]
    change _ = (scene.truncate path declared).diagnostics.filter _
    rw [diagnostics_truncate, diagnostics_truncate, widened.displayErrorMessage, widened.hooks,
      widened.maxDepth]
    split
    · rw [List.filter_cons_of_pos (by simpa using kept), List.filter_nil]
    · rfl

/-- **One element with everything in it**, under wider settings. The induction is on the levels that
are left; the elements around the element make up the rest of the greatest depth. -/
theorem mirrors_renderElement_widened {level : Nat} {within : List String}
    (total : within.length + level = scene.settings.maxDepth) (path : String)
    (declared : Element) :
    Mirrors wider.settings.promote wider.settings.keptReport? within
      (wider.renderElement level path declared) (scene.renderElement level path declared) := by
  induction level generalizing within path declared with
  | zero => exact mirrors_truncate_widened widened total path declared
  | succ level ih =>
      refine mirrors_expand widened.alike (scene.nested_renderElement level)
        (fun inner e => ih (by rw [List.length_cons]; omega) inner e)
        (fun node slots children => promote_assembled widened (by omega) path node slots children)
        (fun event quiet => ?_) (fun node => filterMap_keptReport?_anomalies path node _)
        (fun name => filterMap_keptReport?_name widened path name _) declared
      rw [Settings.keptReport?, quiet]
      rfl

/-- A document under wider settings. -/
theorem mirrors_renderRoots_widened (roots : List Node) :
    Mirrors wider.settings.promote wider.settings.keptReport? []
      (wider.renderRoots roots) (scene.renderRoots roots) := by
  refine wider.mirrors_renderRoots scene widened.alike.plain widened.plain (fun path e => ?_)
    (fun top => rfl) roots
  have total : ([] : List String).length + scene.settings.maxDepth = scene.settings.maxDepth :=
    Nat.zero_add _
  rw [widened.maxDepth]
  exact mirrors_renderElement_widened widened total path e

end Scene

/-! ### What is withdrawn -/

/-- The report that the name of an element is not available. -/
def Place.unavailable (place : Place ρ) : Diagnostic :=
  (Diagnostic.ofUnavailable place.element.component).atPath place.path

section Withdrawn

variable {s : Settings}

/-- Of the account of an element, at most its unavailable name is withdrawn, and that exactly when
the element is promoted. -/
theorem filter_withdraws_account {v : Visit ρ} (shallow : v.depth ≤ s.maxDepth + 1) :
    (v.account s.maxDepth).filter (fun d => decide (s.Withdraws d))
      = if s.Promotes v.depth v.element then [v.toPlace.unavailable] else [] := by
  have drops : ∀ d : Diagnostic, d.anomaly.isUnrendered = false →
      decide (s.Withdraws d) = false := by
    intro d other
    refine decide_eq_false fun withdrawn => ?_
    have unavailable := withdrawn.1
    cases hanomaly : d.anomaly <;> rw [hanomaly] at other unavailable <;> contradiction
  rw [Visit.filter_account_of_drops drops]
  by_cases deep : v.depth = s.maxDepth + 1
  · have kept : ¬s.Withdraws (v.diagnostic (.tooDeep s.maxDepth)) := fun h => nomatch h.1
    have notPromoted : ¬s.Promotes v.depth v.element := by
      intro promoted
      have := promoted.2.1
      omega
    rw [if_pos deep, if_neg notPromoted, List.filter_cons, decide_eq_false kept]
    rfl
  · have within : v.depth ≤ s.maxDepth := by omega
    have promotes : s.Promotes v.depth v.element ↔
        v.element.renderable.isNull = true ∧ s.Withdraws v.toPlace.unavailable :=
      ⟨fun h => ⟨h.1, rfl, h.2.2⟩, fun h => ⟨h.1, within, h.2.2⟩⟩
    rw [if_neg deep]
    by_cases null : v.element.renderable.isNull = true
    · rw [if_pos null]
      change List.filter _ [v.toPlace.unavailable] = _
      rw [List.filter_cons, List.filter_nil]
      by_cases withdrawn : s.Withdraws v.toPlace.unavailable
      · rw [if_pos (decide_eq_true withdrawn), if_pos (promotes.mpr ⟨null, withdrawn⟩)]
      · rw [if_neg (mt of_decide_eq_true withdrawn),
          if_neg fun h => withdrawn (promotes.mp h).2]
    · rw [if_neg null, if_neg fun h => null h.1, List.filter_nil]

theorem filter_withdraws_accounts {visits : List (Visit ρ)}
    (shallow : ∀ v ∈ visits, v.depth ≤ s.maxDepth + 1) :
    (visits.flatMap (·.account s.maxDepth)).filter (fun d => decide (s.Withdraws d))
      = ((visits.map (·.toPlace)).filter fun place =>
          decide (s.Promotes place.depth place.element)).map Place.unavailable := by
  induction visits with
  | nil => rfl
  | cons v rest ih =>
      obtain ⟨here, later⟩ := List.forall_mem_cons.mp shallow
      rw [List.flatMap_cons, List.filter_append, filter_withdraws_account here, ih later,
        List.map_cons, List.filter_cons]
      by_cases promoted : s.Promotes v.depth v.element
      · rw [if_pos promoted, if_pos (decide_eq_true promoted)]
        rfl
      · rw [if_neg promoted, if_neg (mt of_decide_eq_true promoted)]
        rfl

end Withdrawn

/-! ### Documents -/

/-- **Options are monotone.** Of two options that are both accepted, let one be at least as
permissive and otherwise the same. In the tree under the wider ones, exactly those elements that
render nothing under the narrower ones, are not too deep and have a name that is not empty and that
the wider ones permit, are tags of that name; nothing else is different. The diagnostics are those
under the narrower ones less the withdrawn ones, in the same order, which are, unless messages are
off, the reports that the names of exactly these elements are not available. -/
theorem render_widened {o o' : Options} (widens : o.Widens o') {s s' : Settings}
    (resolved : o.resolve = .ok s) (resolved' : o'.resolve = .ok s') (registry : Registry ρ)
    (roots : List Node) :
    let r : Renderer ρ := { registry, settings := s, hooks := .none, roots }
    let r' : Renderer ρ := { registry, settings := s', hooks := .none, roots }
    r'.tree = r.tree.mapElements s'.promote 1 ∧
      r'.diagnostics = r.diagnostics.filter (fun d => !decide (s'.Withdraws d)) ∧
      r.diagnostics.filter (fun d => decide (s'.Withdraws d))
        = if s.displayErrorMessage then
            (r.tree.places.filter fun place =>
              decide (s'.Promotes place.depth place.element)).map Place.unavailable
          else [] := by
  intro r r'
  have settings := settings_of_resolve resolved
  have settings' := settings_of_resolve resolved'
  have sameDepth : s'.maxDepth = s.maxDepth := by
    rw [settings, settings']
    exact congrArg UInt64.toNat widens.maxDepth
  have widened : r.toScene.WidenedTo r'.toScene :=
    { plain := Hooks.undecorated_none
      hooks := rfl
      registry := rfl
      permits := fun name permitted => by
        rw [show r'.settings = o'.settings from settings']
        rw [show r.settings = o.settings from settings] at permitted
        exact permits_of_widens widens permitted
      displayErrorMessage := by
        change s'.displayErrorMessage = s.displayErrorMessage
        rw [settings, settings']
        exact widens.displayErrorMessage
      legacyPropsChildren := by
        change s'.legacyPropsChildren = s.legacyPropsChildren
        rw [settings, settings']
        exact widens.legacyPropsChildren
      maxDepth := sameDepth }
  have mirrors := Scene.mirrors_renderRoots_widened widened roots
  refine ⟨mirrors.value, mirrors.diagnostics.trans (Settings.read_keptReport? _ _ _), ?_⟩
  cases messages : s.displayErrorMessage with
  | false =>
      have silent : r.diagnostics = [] := Scene.diagnostics_renderRoots_eq_nil messages roots
      rw [silent]
      rfl
  | true =>
      have accounted := accounted_render r rfl messages
      rw [accounted.diagnostics_eq, ← accounted.places_eq, if_pos rfl]
      change (r.visits.flatMap (·.account s.maxDepth)).filter _ = _
      rw [← sameDepth]
      refine filter_withdraws_accounts fun v hv => ?_
      have hplace : v.toPlace ∈ r.tree.places := accounted.places_eq ▸ List.mem_map_of_mem hv
      have made := Scene.made_of_mem_places widened.plain roots v.toPlace hplace
      rw [sameDepth]
      exact made.depth_le.1

/-- A longer list of allowed names: the tag inside what is still not available is let through, the
custom element and the empty name are not, and what is too deep stays as it is. -/
theorem render_widened_longer_list :
    let o : Options := { allowUnsecureElements := .listed ["section"], maxDepth := 3 }
    let o' : Options := { allowUnsecureElements := .listed ["p", "section"], maxDepth := 3 }
    let roots : List Node := [.element
      { component := "my-widget"
        key := some "w"
        children := some (.nodes [
          .element { component := "p", key := some "p", slots := [("", .nodes [
            .element { component := "section", key := some "s", children := some (.nodes [
              .element { component := "p", key := some "q" }]) }])] },
          .element { component := "", key := some "e" }]) }]
    let r : Renderer String :=
      { registry := {}, settings := o.settings, hooks := .none, roots }
    let r' : Renderer String :=
      { registry := {}, settings := o'.settings, hooks := .none, roots }
    o.Widens o' ∧ o.resolve = .ok o.settings ∧ o'.resolve = .ok o'.settings ∧
      r.tree.places.map (·.element.renderable) = [.null, .null, .tag "section", .null, .null] ∧
      r'.tree.places.map (·.element.renderable)
        = [.null, .tag "p", .tag "section", .null, .null] ∧
      r'.tree = r.tree.mapElements o'.settings.promote 1 ∧
      r.diagnostics.filter (fun d => decide (o'.settings.Withdraws d))
        = [⟨"p", "0.0", .unavailable true false⟩] :=
  have widens : Options.Widens { allowUnsecureElements := .listed ["section"], maxDepth := 3 }
      { allowUnsecureElements := .listed ["p", "section"], maxDepth := 3 } :=
    { html := nofun
      customElement := nofun
      elements := .inr (.inr ⟨_, _, rfl, rfl, by decide⟩)
      displayErrorMessage := rfl
      legacyPropsChildren := rfl
      componentKeyCase := rfl
      maxDepth := rfl }
  ⟨widens, rfl, rfl, by decide, by decide, (render_widened widens rfl rfl _ _).1, by decide⟩

end ComponentTree
