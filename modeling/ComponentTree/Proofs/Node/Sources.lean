import ComponentTree.Proofs.Render.Accounting

/-!
The sources of an element's children. An element can declare children in three places; the first
source is rendered and the others are ignored, as are keys among the props and slots.

* `chosenChildren_eq_head?` — what is rendered as children is what the first source declares.
* `ReadsAlike` — two elements of which a render reads the same, apart from what it reports of them
  and the keys that it derives; closed under composition.
* `readsAlike_trimmed`, `anomalies_trimmed` — without what is ignored an element reads as before,
  and nothing is left to report.
-/

namespace ComponentTree

namespace Fields

variable {α : Type} (fields : Fields α) {name other : String}

theorem get?_erase_self : (fields.erase name).get? name = none := by
  induction fields with
  | nil => rfl
  | cons field rest ih =>
      by_cases h : field.1 = name
      · simpa [erase, h] using ih
      · rw [erase, List.filter_cons_of_pos (by simpa using h), get?_cons, if_neg (Ne.symm h)]
        exact ih

theorem get?_erase_of_ne (h : other ≠ name) :
    (fields.erase name).get? other = fields.get? other := by
  induction fields with
  | nil => rfl
  | cons field rest ih =>
      rw [get?_cons]
      by_cases hname : field.1 = name
      · rw [erase, List.filter_cons_of_neg (by simpa using hname), if_neg (hname ▸ h)]
        exact ih
      · rw [erase, List.filter_cons_of_pos (by simpa using hname), get?_cons]
        split
        · rfl
        · exact ih

/-- Leaving out a name that a filter drops anyway makes no difference to it. -/
theorem filter_erase {p : String × α → Bool}
    (dropped : ∀ field : String × α, field.1 = name → p field = false) :
    (fields.erase name).filter p = fields.filter p := by
  rw [erase, List.filter_filter]
  refine List.filter_congr fun field _ => ?_
  by_cases h : field.1 = name
  · rw [dropped field h, Bool.false_and]
  · simp [h]

end Fields

namespace Element

/-! ### What a source declares -/

/-- The content that an element declares in a place. In legacy mode a prop is one text. -/
def contentAt (legacy : Bool) (e : Element) : ChildrenSource → Option Content
  | .root => e.children
  | .renderProps => e.slot? "children"
  | .props =>
    (e.prop? "children").bind fun value =>
      if value.isNull then none
      else if legacy then some (.text value.literal)
      else Content.ofJson value

theorem isSome_ofJson (value : Json) : (Content.ofJson value).isSome = !value.isNull := by
  cases value <;> simp [Content.ofJson, Json.isNull]

theorem isSome_contentAt (legacy : Bool) (e : Element) (source : ChildrenSource) :
    (e.contentAt legacy source).isSome = e.declares source := by
  cases source with
  | root => rfl
  | renderProps => rfl
  | props =>
      rw [contentAt, declares]
      cases e.prop? "children" with
      | none => rfl
      | some value =>
          rw [Option.bind_some, Option.any_some]
          cases hnull : value.isNull with
          | true => rfl
          | false =>
              cases legacy with
              | true => rfl
              | false => simpa [hnull] using isSome_ofJson value

/-- **The first source is rendered.** What is rendered as children is what the first of the declared
sources declares, if there is one. -/
theorem chosenChildren_eq_head? (legacy : Bool) (e : Element) :
    e.chosenChildren legacy = e.childrenSources.head?.bind (e.contentAt legacy) := by
  unfold chosenChildren childrenSources
  cases hroot : e.children with
  | some content => simp [contentAt, hroot]
  | none =>
      cases hslot : e.slot? "children" with
      | some content => simp [contentAt, hslot]
      | none =>
          cases hprop : e.prop? "children" with
          | none => rfl
          | some value => cases hnull : value.isNull <;> simp [contentAt, hprop, hnull]

/-- What an element declares as its children in the first of the places where it does. -/
def firstChildren? (legacy : Bool) (e : Element) : Option Content :=
  e.childrenSources.head?.bind (e.contentAt legacy)

theorem chosenChildren_eq_firstChildren? (legacy : Bool) (e : Element) :
    e.chosenChildren legacy = e.firstChildren? legacy :=
  chosenChildren_eq_head? legacy e

/-- Values in the place of a component name are met only where a prop is rendered as nodes. -/
theorem strayInChildren_eq (legacy : Bool) (e : Element) :
    e.strayInChildren legacy
      = if e.childrenSources.head? = some .props ∧ legacy = false then
          ((e.prop? "children").map Json.strayComponents).getD []
        else [] := by
  unfold strayInChildren childrenSources
  cases hroot : e.children with
  | some content => simp
  | none =>
      cases hslot : e.slot? "children" with
      | some content => simp
      | none =>
          cases hprop : e.prop? "children" with
          | none => simp
          | some value => cases value <;> cases legacy <;> simp [Json.isNull, Json.strayComponents]

/-! ### Leaving out what is ignored -/

/-- Leaves out a slot. -/
def withoutSlot (e : Element) (name : String) : Element :=
  { e with slots := Fields.erase name e.slots }

/-- Leaves out the children that are declared in a place. -/
def withoutChildren (e : Element) : ChildrenSource → Element
  | .root => { e with children := none }
  | .renderProps => e.withoutSlot "children"
  | .props => e.withoutProp "children"

/-- The element without the children that are ignored, those of every declared source but the first,
and without the keys among its props and slots. -/
def trimmed (e : Element) : Element :=
  ((e.childrenSources.tail.foldl withoutChildren e).withoutProp "key").withoutSlot "key"

section Declares

variable (legacy : Bool) (e : Element) (source : ChildrenSource)

theorem contentAt_withoutChildren (other : ChildrenSource) :
    (e.withoutChildren source).contentAt legacy other
      = if other = source then none else e.contentAt legacy other := by
  cases source <;> cases other <;>
    simp [withoutChildren, withoutSlot, withoutProp, contentAt, slot?, prop?,
      Fields.get?_erase_self]

theorem childrenSources_withoutChildren :
    (e.withoutChildren source).childrenSources = e.childrenSources.filter (· ≠ source) := by
  rw [childrenSources_eq_filter, childrenSources_eq_filter, List.filter_filter]
  refine List.filter_congr fun other _ => ?_
  rw [← isSome_contentAt false, contentAt_withoutChildren, ← isSome_contentAt false]
  by_cases h : other = source <;> simp [h]

theorem contentAt_withoutProp_key (other : ChildrenSource) :
    (e.withoutProp "key").contentAt legacy other = e.contentAt legacy other := by
  cases other with
  | root => rfl
  | renderProps => rfl
  | props => rw [contentAt, withoutProp, prop?, Fields.get?_erase_of_ne _ (by decide)]; rfl

theorem contentAt_withoutSlot_key (other : ChildrenSource) :
    (e.withoutSlot "key").contentAt legacy other = e.contentAt legacy other := by
  cases other with
  | root => rfl
  | renderProps => rw [contentAt, withoutSlot, slot?, Fields.get?_erase_of_ne _ (by decide)]; rfl
  | props => rfl

variable {legacy e} in
/-- The sources of an element are determined by what it declares. -/
theorem childrenSources_congr {e' : Element}
    (same : ∀ source, e'.contentAt legacy source = e.contentAt legacy source) :
    e'.childrenSources = e.childrenSources := by
  rw [childrenSources_eq_filter, childrenSources_eq_filter]
  refine List.filter_congr fun source _ => ?_
  rw [← isSome_contentAt legacy, same, isSome_contentAt]

end Declares

theorem nodup_childrenSources (e : Element) : e.childrenSources.Nodup := by
  rw [childrenSources_eq_filter]
  exact List.Pairwise.filter _ (by decide)

theorem childrenSources_foldl (e : Element) (ignored : List ChildrenSource) :
    (ignored.foldl withoutChildren e).childrenSources
      = e.childrenSources.filter (· ∉ ignored) := by
  induction ignored generalizing e with
  | nil => exact (List.filter_eq_self.mpr fun _ _ => by simp).symm
  | cons source rest ih =>
      rw [List.foldl_cons, ih, childrenSources_withoutChildren, List.filter_filter]
      simp only [List.mem_cons, not_or, Bool.decide_and, Bool.and_comm]

/-- Only the first source is left. -/
theorem childrenSources_trimmed (e : Element) :
    e.trimmed.childrenSources = e.childrenSources.take 1 := by
  rw [trimmed, childrenSources_congr (contentAt_withoutSlot_key false _),
    childrenSources_congr (contentAt_withoutProp_key false _), childrenSources_foldl]
  have nodup := e.nodup_childrenSources
  cases hsources : e.childrenSources with
  | nil => rfl
  | cons chosen ignored =>
      rw [hsources, List.nodup_cons] at nodup
      rw [List.tail_cons, List.filter_cons_of_pos (by simpa using nodup.1)]
      simp

/-! ### What a render reads -/

/-- What a render reads of an element is the same for two of them, apart from what it reports of an
element and from the key that it derives. -/
structure ReadsAlike (legacy : Bool) (e e' : Element) : Prop where
  component : e'.component = e.component
  key : e'.key = e.key
  props : e'.openProps = e.openProps
  slots : e'.openSlots = e.openSlots
  children : e'.chosenChildren legacy = e.chosenChildren legacy
  stray : e'.strayInChildren legacy = e.strayInChildren legacy

namespace ReadsAlike

variable {legacy : Bool} {e e' e'' : Element}

theorem refl (e : Element) : ReadsAlike legacy e e :=
  ⟨rfl, rfl, rfl, rfl, rfl, rfl⟩

theorem trans (h : ReadsAlike legacy e e') (h' : ReadsAlike legacy e' e'') :
    ReadsAlike legacy e e'' where
  component := h'.component.trans h.component
  key := h'.key.trans h.key
  props := h'.props.trans h.props
  slots := h'.slots.trans h.slots
  children := h'.children.trans h.children
  stray := h'.stray.trans h.stray

/-- Of the declared children only those of the first source are read. -/
theorem of_head (component : e'.component = e.component) (key : e'.key = e.key)
    (props : e'.openProps = e.openProps) (slots : e'.openSlots = e.openSlots)
    (head : e'.childrenSources.head? = e.childrenSources.head?)
    (content : ∀ source, e.childrenSources.head? = some source →
      e'.contentAt legacy source = e.contentAt legacy source)
    (prop : e.childrenSources.head? = some .props → e'.prop? "children" = e.prop? "children") :
    ReadsAlike legacy e e' where
  component := component
  key := key
  props := props
  slots := slots
  children := by
    rw [chosenChildren_eq_head?, chosenChildren_eq_head?, head]
    cases hfirst : e.childrenSources.head? with
    | none => rfl
    | some source => exact content source hfirst
  stray := by
    rw [strayInChildren_eq, strayInChildren_eq, head]
    by_cases first : e.childrenSources.head? = some .props ∧ legacy = false
    · rw [if_pos first, if_pos first, prop first.1]
    · rw [if_neg first, if_neg first]

end ReadsAlike

section Trimmed

variable (legacy : Bool) (e : Element)

theorem openProps_withoutProp {name : String} (reserved : isReserved name = true) :
    (e.withoutProp name).openProps = e.openProps :=
  Fields.filter_erase _ fun field h => by rw [h, reserved]; rfl

theorem openSlots_withoutSlot {name : String} (reserved : isReserved name = true) :
    (e.withoutSlot name).openSlots = e.openSlots :=
  Fields.filter_erase _ fun field h => by rw [h, reserved]; rfl

theorem readsAlike_withoutProp_key : ReadsAlike legacy e (e.withoutProp "key") :=
  .of_head rfl rfl (openProps_withoutProp e rfl) rfl
    (by rw [childrenSources_congr (contentAt_withoutProp_key legacy e)])
    (fun _ _ => contentAt_withoutProp_key legacy e _)
    (fun _ => Fields.get?_erase_of_ne _ (by decide))

theorem readsAlike_withoutSlot_key : ReadsAlike legacy e (e.withoutSlot "key") :=
  .of_head rfl rfl rfl (openSlots_withoutSlot e rfl)
    (by rw [childrenSources_congr (contentAt_withoutSlot_key legacy e)])
    (fun _ _ => contentAt_withoutSlot_key legacy e _)
    (fun _ => rfl)

theorem head?_childrenSources_withoutChildren {source : ChildrenSource}
    (ignored : e.childrenSources.head? ≠ some source) :
    (e.withoutChildren source).childrenSources.head? = e.childrenSources.head? := by
  rw [childrenSources_withoutChildren]
  cases hsources : e.childrenSources with
  | nil => rfl
  | cons chosen rest =>
      rw [hsources, List.head?_cons, ne_eq, Option.some.injEq] at ignored
      rw [List.filter_cons_of_pos (by simpa using ignored), List.head?_cons, List.head?_cons]

/-- Children that are not declared in the first source are not read. -/
theorem readsAlike_withoutChildren {source : ChildrenSource}
    (ignored : e.childrenSources.head? ≠ some source) :
    ReadsAlike legacy e (e.withoutChildren source) := by
  have head := head?_childrenSources_withoutChildren e ignored
  have content : ∀ other, e.childrenSources.head? = some other →
      (e.withoutChildren source).contentAt legacy other = e.contentAt legacy other := by
    intro other first
    rw [contentAt_withoutChildren, if_neg]
    rintro rfl
    exact ignored first
  cases source with
  | root => exact .of_head rfl rfl rfl rfl head content fun _ => rfl
  | renderProps =>
      exact .of_head rfl rfl rfl (openSlots_withoutSlot e rfl) head content fun _ => rfl
  | props =>
      exact .of_head rfl rfl (openProps_withoutProp e rfl) rfl head content
        fun first => absurd first ignored

theorem readsAlike_foldl {ignored : List ChildrenSource}
    (h : ∀ source ∈ ignored, e.childrenSources.head? ≠ some source) :
    ReadsAlike legacy e (ignored.foldl withoutChildren e) := by
  induction ignored generalizing e with
  | nil => exact .refl e
  | cons source rest ih =>
      obtain ⟨here, later⟩ := List.forall_mem_cons.mp h
      refine (readsAlike_withoutChildren legacy e here).trans (ih _ ?_)
      rwa [head?_childrenSources_withoutChildren e here]

/-- Without what is ignored an element reads as before. -/
theorem readsAlike_trimmed : ReadsAlike legacy e e.trimmed := by
  refine ((readsAlike_foldl legacy e fun source ignored first => ?_).trans
    (readsAlike_withoutProp_key legacy _)).trans (readsAlike_withoutSlot_key legacy _)
  have nodup := e.nodup_childrenSources
  cases hsources : e.childrenSources with
  | nil => rw [hsources] at first; exact nomatch first
  | cons chosen rest =>
      rw [hsources] at first nodup ignored
      obtain rfl := Option.some.inj first
      exact (List.nodup_cons.mp nodup).1 ignored

/-- A declared key stays. -/
theorem effectiveKey_trimmed (path : String) (declared : e.key.isSome = true) :
    e.trimmed.effectiveKey path = e.effectiveKey path := by
  obtain ⟨key, hkey⟩ := Option.isSome_iff_exists.mp declared
  have trimmed : e.trimmed.key = some key := (readsAlike_trimmed false e).key.trans hkey
  rw [effectiveKey, effectiveKey, trimmed, hkey]

/-- Without what is ignored there is nothing left to report about an element. -/
theorem anomalies_trimmed : e.trimmed.anomalies = [] := by
  have single : ¬1 < e.trimmed.childrenSources.length := by
    rw [childrenSources_trimmed, List.length_take]
    omega
  have prop : e.trimmed.prop? "key" = none := Fields.get?_erase_self _
  have slot : e.trimmed.slot? "key" = none := Fields.get?_erase_self _
  rw [anomalies, if_neg single, prop, slot]
  rfl

/-- What is reported about an element before its name is resolved: its sources, if there are
several, and keys. -/
theorem mem_anomalies {anomaly : Anomaly} (h : anomaly ∈ e.anomalies) :
    anomaly = .ambiguousChildren e.childrenSources ∨
      ∃ place value, anomaly = .ignoredKey place value := by
  simp only [anomalies, List.mem_append] at h
  rcases h with (several | prop) | slot
  · split at several
    · exact .inl (List.mem_singleton.mp several)
    · exact absurd several List.not_mem_nil
  · split at prop
    · exact absurd prop List.not_mem_nil
    · split at prop
      · exact absurd prop List.not_mem_nil
      · exact .inr ⟨_, _, List.mem_singleton.mp prop⟩
  · split at slot
    · exact absurd slot List.not_mem_nil
    · exact .inr ⟨_, _, List.mem_singleton.mp slot⟩

end Trimmed

end Element

end ComponentTree
