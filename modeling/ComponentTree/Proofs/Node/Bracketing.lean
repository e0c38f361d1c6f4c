import Mathlib.Data.List.Forall2
import ComponentTree.Renderer.Basic
import ComponentTree.Markup
import ComponentTree.Proofs.Node.Gap

/-!
The bracketing of lists. Where a value stands for nodes, an array stands for its items, and an array
among them for its own: what counts are the items that are no arrays, from left to right.

* `Json.leaves` — those items; `areOf_leaves` — a list of nodes has one node for each of them, in
  their order.
* `Json.Frame` — an array or object with one value left out that stands for nodes;
  `Json.LoadsAlike.nest` — what loads alike does so inside frames, at any depth.
* `exists_value_of_listed` — every list of nodes of a document is that of a value inside frames.
* `rootsOfJson_rebracketed` — other brackets around the same items make no difference to a document
  or to anything that is rendered of it.
-/

namespace ComponentTree

/-! ### Items that are no arrays -/

mutual

/-- The items that a value brings to a list of nodes, left to right: those of an array, whatever the
brackets between them, and any other value itself. -/
def Json.leaves : Json → List Json
  | .array items => Json.leavesIn items
  | value => [value]

/-- The items in a list of values, those in arrays included. -/
def Json.leavesIn : List Json → List Json
  | [] => []
  | item :: rest => item.leaves ++ Json.leavesIn rest

end

/-- Nodes are those of items, one for each, in the order of the items. No item is an array. -/
def Node.AreOf (nodes : List Node) (items : List Json) : Prop :=
  List.Forall₂ (fun item node => Node.ofJson item = .ok node) items nodes

namespace Node.AreOf

theorem append {nodes more : List Node} {items others : List Json} (these : AreOf nodes items)
    (those : AreOf more others) : AreOf (nodes ++ more) (items ++ others) :=
  List.rel_append these those

/-- The items determine the nodes. -/
theorem unique {nodes nodes' : List Node} {items : List Json} (these : AreOf nodes items)
    (those : AreOf nodes' items) : nodes = nodes' :=
  List.right_unique_forall₂' (fun _ _ _ first second => Except.ok.inj (first.symm.trans second))
    these those

end Node.AreOf

/-- A value that stands for a single node is its only item. -/
theorem areOf_of_ofJson {value : Json} {node : Node} (single : Node.ofJson value = .ok node) :
    Node.AreOf (Node.listOfJson value) value.leaves := by
  cases value with
  | array items => exact nomatch single
  | object fields => exact .cons rfl .nil
  | null | bool | number | string => exact .cons rfl .nil

mutual

theorem areOf_leaves : ∀ value : Json, Node.AreOf (Node.listOfJson value) value.leaves
  | .array items => areOf_leavesIn items
  | .object _ | .null | .bool _ | .number _ | .string _ => areOf_of_ofJson rfl

theorem areOf_leavesIn : ∀ items : List Json,
    Node.AreOf (Node.listOfItems items) (Json.leavesIn items)
  | [] => .nil
  | item :: rest => (areOf_leaves item).append (areOf_leavesIn rest)

end

/-- The items alone determine the nodes of a list. -/
theorem Node.listOfItems_congr {items items' : List Json}
    (same : Json.leavesIn items' = Json.leavesIn items) :
    Node.listOfItems items' = Node.listOfItems items :=
  (same ▸ areOf_leavesIn items').unique (areOf_leavesIn items)

/-! ### Values in the place of a component name -/

mutual

/-- Values in the place of a component name are met item by item. -/
theorem Json.strayComponents_eq_flatMap_leaves : ∀ value : Json,
    value.strayComponents = value.leaves.flatMap Json.strayComponents
  | .array items => Json.strayInItems_eq_flatMap_leavesIn items
  | .object _ | .null | .bool _ | .number _ | .string _ => (List.flatMap_singleton ..).symm

theorem Json.strayInItems_eq_flatMap_leavesIn : ∀ items : List Json,
    Json.strayInItems items = (Json.leavesIn items).flatMap Json.strayComponents
  | [] => rfl
  | item :: rest => by
      rw [Json.strayInItems, Json.leavesIn, List.flatMap_append,
        ← Json.strayComponents_eq_flatMap_leaves item,
        ← Json.strayInItems_eq_flatMap_leavesIn rest]

end

theorem Json.strayInItems_eq_flatMap (items : List Json) :
    Json.strayInItems items = items.flatMap Json.strayComponents := by
  induction items with
  | nil => rfl
  | cons item rest ih => rw [Json.strayInItems, ih, List.flatMap_cons]

theorem Json.strayInChildren_eq (fields : Fields Json) :
    Json.strayInChildren fields = (fields.get? "children").elim [] Json.strayComponents :=
  fields.eq_elim_get? rfl fun _ _ _ => rfl

theorem Json.strayInSlots_eq (fields : Fields Json) :
    Json.strayInSlots fields = (fields.get? "renderProps").elim [] Json.strayInSlotsOf :=
  fields.eq_elim_get? rfl fun _ _ _ => rfl

theorem Json.strayInSlotFields_eq_flatMap (fields : Fields Json) :
    Json.strayInSlotFields fields = fields.flatMap fun field => field.2.strayComponents := by
  induction fields with
  | nil => rfl
  | cons field rest ih => rw [Json.strayInSlotFields, ih, List.flatMap_cons]

/-! ### Lists and slots item by item -/

theorem Node.listOfItems_eq_flatMap (items : List Json) :
    Node.listOfItems items = items.flatMap Node.listOfJson := by
  induction items with
  | nil => rfl
  | cons item rest ih => rw [Node.listOfItems, ih, List.flatMap_cons]

/-- A slot is filled by each field that has content. -/
theorem Content.slotsOfFields_eq_filterMap (fields : Fields Json) :
    Content.slotsOfFields fields
      = fields.filterMap fun field => (Content.ofJson field.2).map (field.1, ·) := by
  induction fields with
  | nil => rfl
  | cons field rest ih =>
      obtain ⟨name, value⟩ := field
      rw [Content.slotsOfFields, ih, List.filterMap_cons]
      cases Content.ofJson value <;> rfl

/-! ### A field with a value in place -/

/-- What is read of a field with a value in place depends on no more of the value than is read. -/
theorem Row.elim_get?_fill {α β : Type} (row : Row (String × α)) {name other : String}
    {absent : β} {found : α → β} {value value' : α}
    (same : name = other → found value' = found value) :
    (Fields.get? (row.fill (name, value')) other).elim absent found
      = (Fields.get? (row.fill (name, value)) other).elim absent found := by
  by_cases h : name = other
  · obtain rfl := h
    rw [get?_fill_self, get?_fill_self]
    cases Fields.get? row.before name with
    | none => exact same rfl
    | some first => rfl
  · rw [get?_fill_of_ne _ h, get?_fill_of_ne _ h]

section Field

variable (fields : Row (String × Json)) {name : String} {value value' : Json}

/-- Of a value among its fields an element depends on no more than the children or the slots that
are loaded from it, unless the field is one of those that are taken as they are. -/
theorem Element.ofFields_fill
    (others : name ≠ "component" ∧ name ≠ "key" ∧ name ≠ "props")
    (children : name = "children" → Content.ofJson value' = Content.ofJson value)
    (slots : name = "renderProps" → Content.slotsOf value' = Content.slotsOf value) :
    Element.ofFields (fields.fill (name, value'))
      = Element.ofFields (fields.fill (name, value)) := by
  obtain ⟨component, key, props⟩ := others
  have own {other : String} (ne : name ≠ other) :
      Fields.get? (fields.fill (name, value')) other
        = Fields.get? (fields.fill (name, value)) other := by
    rw [fields.get?_fill_of_ne ne, fields.get?_fill_of_ne ne]
  have childrenIn : Content.childrenIn (fields.fill (name, value'))
      = Content.childrenIn (fields.fill (name, value)) := by
    rw [Content.childrenIn_eq, Content.childrenIn_eq]
    exact fields.elim_get?_fill children
  have slotsIn : Content.slotsIn (fields.fill (name, value'))
      = Content.slotsIn (fields.fill (name, value)) := by
    rw [Content.slotsIn_eq, Content.slotsIn_eq]
    exact fields.elim_get?_fill slots
  simp only [ofFields, ofLoaded, componentOf, keyOf, propsOf, own component, own key, own props,
    childrenIn, slotsIn]

/-- The same for the values that are met in the place of a component name. -/
theorem Json.strayComponents_fill (other : name ≠ "component")
    (children : name = "children" → value'.strayComponents = value.strayComponents)
    (slots : name = "renderProps" → strayInSlotsOf value' = strayInSlotsOf value) :
    (Json.object (fields.fill (name, value'))).strayComponents
      = (Json.object (fields.fill (name, value))).strayComponents := by
  have own : strayComponent (fields.fill (name, value'))
      = strayComponent (fields.fill (name, value)) := by
    rw [strayComponent, strayComponent, fields.get?_fill_of_ne other, fields.get?_fill_of_ne other]
  rw [strayComponents, strayComponents, own, strayInChildren_eq, strayInChildren_eq,
    strayInSlots_eq, strayInSlots_eq, fields.elim_get?_fill children, fields.elim_get?_fill slots]

end Field

/-! ### Values that load alike -/

/-- Two values load alike wherever a value can stand for nodes. -/
structure Json.LoadsAlike (value value' : Json) : Prop where
  nodes : Node.listOfJson value' = Node.listOfJson value
  content : Content.ofJson value' = Content.ofJson value
  stray : value'.strayComponents = value.strayComponents

namespace Json.LoadsAlike

variable {value value' : Json}

theorem array {items items' : List Json}
    (nodes : Node.listOfItems items' = Node.listOfItems items)
    (stray : strayInItems items' = strayInItems items) :
    LoadsAlike (.array items) (.array items') :=
  ⟨nodes, congrArg (fun list => some (Content.nodes list)) nodes, stray⟩

/-- Arrays with the same items load alike. -/
theorem of_leavesIn {items items' : List Json} (same : leavesIn items' = leavesIn items) :
    LoadsAlike (.array items) (.array items') := by
  refine .array (Node.listOfItems_congr same) ?_
  rw [strayInItems_eq_flatMap_leavesIn, same, strayInItems_eq_flatMap_leavesIn]

/-- What loads alike does so as one of several items. -/
theorem item (alike : LoadsAlike value value') (row : Row Json) :
    LoadsAlike (.array (row.fill value)) (.array (row.fill value')) := by
  refine .array ?_ ?_
  · simp only [Node.listOfItems_eq_flatMap, Row.fill, List.flatMap_append, List.flatMap_cons,
      alike.nodes]
  · simp only [strayInItems_eq_flatMap, Row.fill, List.flatMap_append, List.flatMap_cons,
      alike.stray]

/-- Objects load alike when they are read as the same element, with the same values in the place of
a component name. -/
theorem object {fields fields' : Fields Json}
    (element : Element.ofFields fields' = Element.ofFields fields)
    (stray : (Json.object fields').strayComponents = (Json.object fields).strayComponents) :
    LoadsAlike (.object fields) (.object fields') :=
  ⟨congrArg (fun e => [Node.element e]) element,
    congrArg (fun e => some (Content.nodes [Node.element e])) element, stray⟩

end Json.LoadsAlike

/-! ### Frames -/

/-- An array or an object with one value left out, which stands for nodes: an item of the array, or
the children or the content of a slot of the element that the object is. -/
inductive Json.Frame where
  | item (row : Row Json)
  | children (fields : Row (String × Json))
  | slot (fields : Row (String × Json)) (slots : Row (String × Json)) (name : String)

namespace Json.Frame

/-- The array or object with a value in place. -/
def fill (value : Json) : Frame → Json
  | item row => .array (row.fill value)
  | children fields => .object (fields.fill ("children", value))
  | slot fields slots name =>
    .object (fields.fill ("renderProps", .object (slots.fill (name, value))))

/-- Frames one inside the other, outermost first, with a value in the innermost. -/
def nest (frames : List Frame) (value : Json) : Json :=
  frames.foldr (fun frame inner => frame.fill inner) value

theorem nest_append (frames inner : List Frame) (value : Json) :
    nest (frames ++ inner) value = nest frames (nest inner value) :=
  List.foldr_append

end Json.Frame

namespace Json.LoadsAlike

variable {value value' : Json}

/-- **A frame reads no more of a value than the nodes that it stands for.** -/
theorem fill (alike : LoadsAlike value value') (frame : Frame) :
    LoadsAlike (frame.fill value) (frame.fill value') := by
  cases frame with
  | item row => exact alike.item row
  | children fields =>
      refine .object ?_ ?_
      · exact Element.ofFields_fill fields (by decide) (fun _ => alike.content) nofun
      · exact strayComponents_fill fields (by decide) (fun _ => alike.stray) nofun
  | slot fields slots name =>
      refine .object (Element.ofFields_fill fields (by decide) nofun fun _ => ?_)
        (strayComponents_fill fields (by decide) nofun fun _ => ?_)
      · rw [Content.slotsOf, Content.slotsOf, Content.slotsOfFields_eq_filterMap,
          Content.slotsOfFields_eq_filterMap]
        simp only [Row.fill, List.filterMap_append, List.filterMap_cons, alike.content]
      · rw [strayInSlotsOf, strayInSlotsOf, strayInSlotFields_eq_flatMap,
          strayInSlotFields_eq_flatMap]
        simp only [Row.fill, List.flatMap_append, List.flatMap_cons, alike.stray]

/-- What loads alike does so at any depth. -/
theorem nest (alike : LoadsAlike value value') (frames : List Frame) :
    LoadsAlike (Frame.nest frames value) (Frame.nest frames value') := by
  induction frames with
  | nil => exact alike
  | cons frame inner ih => exact ih.fill frame

end Json.LoadsAlike

/-! ### The lists of a document -/

mutual

/-- The items of a value stand for nodes in it. -/
theorem exists_nest_of_mem_leaves : ∀ (value : Json) {item : Json}, item ∈ value.leaves →
    ∃ frames, Json.Frame.nest frames item = value
  | .array items, _, member => by
      obtain ⟨row, frames, rfl⟩ := exists_fill_of_mem_leavesIn items member
      exact ⟨.item row :: frames, rfl⟩
  | .object _, _, member | .null, _, member | .bool _, _, member | .number _, _, member
  | .string _, _, member => ⟨[], List.mem_singleton.mp member⟩

theorem exists_fill_of_mem_leavesIn : ∀ (items : List Json) {item : Json},
    item ∈ Json.leavesIn items → ∃ (row : Row Json) (frames : List Json.Frame),
      row.fill (Json.Frame.nest frames item) = items
  | first :: rest, _, member => by
      rcases List.mem_append.mp member with here | later
      · obtain ⟨frames, rfl⟩ := exists_nest_of_mem_leaves first here
        exact ⟨⟨[], rest⟩, frames, rfl⟩
      · obtain ⟨row, frames, rfl⟩ := exists_fill_of_mem_leavesIn rest later
        exact ⟨⟨first :: row.before, row.after⟩, frames, rfl⟩

end

/-- The nodes of content are those of the items of the value that it is loaded from. -/
theorem areOf_content {value : Json} {nodes : List Node}
    (loaded : Content.ofJson value = some (.nodes nodes)) : Node.AreOf nodes value.leaves := by
  cases value with
  | array items =>
      obtain rfl : Node.listOfItems items = nodes := Content.nodes.inj (Option.some.inj loaded)
      exact areOf_leavesIn items
  | object fields =>
      obtain rfl : [Node.element (.ofFields fields)] = nodes :=
        Content.nodes.inj (Option.some.inj loaded)
      exact areOf_of_ofJson rfl
  | null => exact nomatch loaded
  | bool | number | string => exact nomatch Option.some.inj loaded

/-- Every node is that of an item. -/
theorem Node.AreOf.exists_item {nodes : List Node} {items : List Json} {node : Node}
    (these : AreOf nodes items) (member : node ∈ nodes) :
    ∃ item ∈ items, Node.ofJson item = .ok node := by
  induction these with
  | nil => exact nomatch member
  | @cons item _ _ _ single _ ih =>
      rcases List.mem_cons.mp member with rfl | later
      · exact ⟨item, List.mem_cons_self, single⟩
      · obtain ⟨other, found, loaded⟩ := ih later
        exact ⟨other, List.mem_cons_of_mem _ found, loaded⟩

/-- An element is loaded from an object. -/
theorem exists_object_of_ofJson {item : Json} {e : Element}
    (single : Node.ofJson item = .ok (.element e)) :
    ∃ fields, item = .object fields ∧ Element.ofFields fields = e := by
  cases item with
  | object fields => exact ⟨fields, rfl, Node.element.inj (Except.ok.inj single)⟩
  | array => exact nomatch single
  | null | bool | number | string => exact nomatch Except.ok.inj single

/-- The children of an element are loaded from a value that stands for nodes in its object. -/
theorem exists_frame_of_children {fields : Fields Json} {content : Content}
    (declared : (Element.ofFields fields).children = some content) :
    ∃ (frame : Json.Frame) (value : Json), frame.fill value = .object fields ∧
      Content.ofJson value = some content := by
  have loaded : Content.childrenIn fields = some content := declared
  rw [Content.childrenIn_eq] at loaded
  cases found : fields.get? "children" with
  | none =>
      rw [found] at loaded
      exact nomatch loaded
  | some value =>
      rw [found] at loaded
      obtain ⟨row, rfl, -⟩ := Row.exists_fill_eq_of_get? found
      exact ⟨.children row, value, rfl, loaded⟩

/-- The content of a slot is loaded from a value that stands for nodes in the object of the
element. -/
theorem exists_frame_of_slot {fields : Fields Json} {name : String} {content : Content}
    (filled : (name, content) ∈ (Element.ofFields fields).slots) :
    ∃ (frame : Json.Frame) (value : Json), frame.fill value = .object fields ∧
      Content.ofJson value = some content := by
  have loaded : (name, content) ∈ Content.slotsIn fields := filled
  rw [Content.slotsIn_eq] at loaded
  cases found : fields.get? "renderProps" with
  | none =>
      rw [found] at loaded
      exact nomatch loaded
  | some holder =>
      rw [found] at loaded
      obtain ⟨row, rfl, -⟩ := Row.exists_fill_eq_of_get? found
      cases holder with
      | object slots =>
          have among : (name, content) ∈ Content.slotsOfFields slots := loaded
          rw [Content.slotsOfFields_eq_filterMap, List.mem_filterMap] at among
          obtain ⟨⟨other, value⟩, member, kept⟩ := among
          obtain ⟨content', read, same⟩ := Option.map_eq_some_iff.mp kept
          obtain ⟨rfl, rfl⟩ := Prod.mk.inj same
          obtain ⟨slots, rfl⟩ := Row.exists_fill_eq_of_mem member
          exact ⟨.slot row slots other, value, rfl, read⟩
      | null | bool | number | string | array => exact nomatch loaded

/-- A list of nodes belongs to a document: it is that of the roots, or that of the children or of a
slot of an element in such a list. -/
inductive Node.Listed (roots : List Node) : List Node → Prop
  | roots : Listed roots roots
  | children {nodes items : List Node} {e : Element} (outer : Listed roots nodes)
      (member : .element e ∈ nodes) (declared : e.children = some (.nodes items)) :
      Listed roots items
  | slot {nodes items : List Node} {e : Element} {name : String} (outer : Listed roots nodes)
      (member : .element e ∈ nodes) (filled : (name, .nodes items) ∈ e.slots) :
      Listed roots items

/-- Nothing is listed without roots. -/
theorem Node.Listed.eq_nil {nodes : List Node} (listed : Listed [] nodes) : nodes = [] := by
  induction listed with
  | roots => rfl
  | children _ member _ ih | slot _ member _ ih => exact absurd member (ih ▸ List.not_mem_nil)

/-- **Every list of nodes of a document is that of the items of a value in it.** The induction
follows the elements around the list. -/
theorem exists_value_of_listed {document : Json} {nodes : List Node}
    (present : document.isNull = false)
    (listed : Node.Listed (Node.rootsOfJson document) nodes) :
    ∃ frames value, Json.Frame.nest frames value = document ∧ Node.AreOf nodes value.leaves := by
  -- A list inside an element is read within the object of the element.
  have within {nodes items : List Node} {e : Element}
      (outer : ∃ frames value, Json.Frame.nest frames value = document ∧
        Node.AreOf nodes value.leaves)
      (member : .element e ∈ nodes)
      (inner : ∀ fields, Element.ofFields fields = e → ∃ (frame : Json.Frame) (value : Json),
        frame.fill value = .object fields ∧ Content.ofJson value = some (.nodes items)) :
      ∃ frames value, Json.Frame.nest frames value = document ∧
        Node.AreOf items value.leaves := by
    obtain ⟨frames, value, rfl, these⟩ := outer
    obtain ⟨item, found, single⟩ := these.exists_item member
    obtain ⟨fields, rfl, loaded⟩ := exists_object_of_ofJson single
    obtain ⟨toItem, rfl⟩ := exists_nest_of_mem_leaves value found
    obtain ⟨frame, value, framed, content⟩ := inner fields loaded
    refine ⟨frames ++ (toItem ++ [frame]), value, ?_, areOf_content content⟩
    rw [Json.Frame.nest_append, Json.Frame.nest_append, ← framed]
    rfl
  induction listed with
  | roots =>
      refine ⟨[], document, rfl, ?_⟩
      rw [Node.rootsOfJson, present]
      exact areOf_leaves document
  | children _ member declared ih =>
      exact within ih member fun fields loaded => exists_frame_of_children (loaded ▸ declared)
  | slot _ member filled ih =>
      exact within ih member fun fields loaded => exists_frame_of_slot (loaded ▸ filled)

/-! ### Documents -/

theorem isNull_nest_array (frames : List Json.Frame) (items : List Json) :
    (Json.Frame.nest frames (.array items)).isNull = false := by
  cases frames with
  | nil => rfl
  | cons frame inner => cases frame <;> rfl

/-- **Brackets make no difference.** When an array that stands for nodes, wherever it is in a
document, is replaced by any other with the same items from left to right, the same nodes are
loaded, the same values are met in the place of a component name, and whatever the components, the
settings and the hooks are, the tree with all its keys, the diagnostics and the markup are the same.
A value brings one node to a list for each of its items, in their order, whether it is loaded as a
list or as content; and every list of nodes of a document, at any depth, is that of a value which
stands for nodes in it, but for a document without content, which has no nodes. -/
theorem rootsOfJson_rebracketed :
    (∀ (frames : List Json.Frame) (items items' : List Json),
      Json.leavesIn items' = Json.leavesIn items →
        let document := Json.Frame.nest frames (.array items)
        let rebracketed := Json.Frame.nest frames (.array items')
        Node.rootsOfJson rebracketed = Node.rootsOfJson document ∧
          rebracketed.strayComponents = document.strayComponents ∧
          ∀ {ρ : Type} (r : Renderer ρ),
            let of (value : Json) : Renderer ρ := { r with roots := Node.rootsOfJson value }
            (of rebracketed).tree = (of document).tree ∧
              (of rebracketed).diagnostics = (of document).diagnostics ∧
              (of rebracketed).tree.markup = (of document).tree.markup) ∧
      (∀ value : Json, Node.AreOf (Node.listOfJson value) value.leaves ∧
        ∀ nodes, Content.ofJson value = some (.nodes nodes) → Node.AreOf nodes value.leaves) ∧
      ∀ (document : Json) (nodes : List Node), Node.Listed (Node.rootsOfJson document) nodes →
        (document.isNull = true ∧ nodes = []) ∨
          ∃ frames value, Json.Frame.nest frames value = document ∧
            Node.AreOf nodes value.leaves := by
  refine ⟨?_, fun value => ⟨areOf_leaves value, fun nodes => areOf_content⟩, ?_⟩
  · intro frames items items' same document rebracketed
    have alike : Json.LoadsAlike document rebracketed :=
      (Json.LoadsAlike.of_leavesIn same).nest frames
    have roots : Node.rootsOfJson rebracketed = Node.rootsOfJson document := by
      rw [Node.rootsOfJson, Node.rootsOfJson, isNull_nest_array, isNull_nest_array, alike.nodes]
    refine ⟨roots, alike.stray, ?_⟩
    intro ρ r of
    have same : of rebracketed = of document := congrArg (fun roots => { r with roots }) roots
    exact ⟨congrArg Renderer.tree same, congrArg Renderer.diagnostics same,
      congrArg (fun r => r.tree.markup) same⟩
  · intro document nodes listed
    cases empty : document.isNull with
    | false => exact .inr (exists_value_of_listed empty listed)
    | true =>
        rw [Node.rootsOfJson, empty] at listed
        exact .inl ⟨rfl, listed.eq_nil⟩

/-- Brackets taken away and around nothing, in a slot of an element among the children of another,
which are in brackets of their own. -/
theorem rootsOfJson_rebracketed_nested :
    let document (icon : List Json) : Json :=
      .array [.string "a", .object
        [("children", .array [.array [.string "b", .object
            [("component", .string "li"), ("renderProps", .object [("icon", .array icon)])]],
          .string "c"]),
          ("component", .string "ul")]]
    let loose : List Json := [.number (.integer 1), .null]
    let bracketed : List Json := [.array [], .array [.number (.integer 1), .array [.null]]]
    Json.leavesIn loose = Json.leavesIn bracketed ∧
      Node.rootsOfJson (document loose) = Node.rootsOfJson (document bracketed) ∧
      Node.Listed (Node.rootsOfJson (document bracketed)) [.text "1", .text ""] ∧
      ∃ frames value, Json.Frame.nest frames value = document bracketed ∧
        Node.AreOf [.text "1", .text ""] value.leaves := by
  intro document loose bracketed
  have same : Json.leavesIn loose = Json.leavesIn bracketed := rfl
  have listed : Node.Listed (Node.rootsOfJson (document bracketed)) [.text "1", .text ""] :=
    .slot (.children .roots (.tail _ (.head _)) rfl) (.tail _ (.head _)) (.head _)
  obtain ⟨replaced, -, lists⟩ := rootsOfJson_rebracketed
  refine ⟨same, ?_, listed, (lists _ _ listed).resolve_left nofun⟩
  exact (replaced
    [.item ⟨[.string "a"], []⟩, .children ⟨[], [("component", .string "ul")]⟩,
      .item ⟨[], [.string "c"]⟩, .item ⟨[.string "b"], []⟩,
      .slot ⟨[("component", .string "li")], []⟩ ⟨[], []⟩ "icon"]
    bracketed loose same).1

end ComponentTree
