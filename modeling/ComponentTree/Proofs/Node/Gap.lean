import ComponentTree.Walk
import ComponentTree.Proofs.Node.Roundtrip

/-!
Documents with one node left out. A gap is an element from which one node is missing, out of a list
that a render goes through: the declared children, a slot that is rendered as such, or the slot
`children` when there are no declared children. Elements with gaps, one inside the other, make an
opening in a document, which any node can fill.

* `Row` — a list with one item left out.
* `Gap.anomalies_fill`, `Gap.chosenChildren_fill`, `Gap.openSlots_fill` — what a render reads of an
  element with a gap, whatever node fills it.
* `Opening.exists_of_occurs` — every node of such a list is what fills some opening at its address.
-/

namespace ComponentTree

/-! ### Lists with one item left out -/

/-- A list with one item left out. -/
structure Row (α : Type) where
  before : List α
  after : List α

namespace Row

variable {α β : Type}

/-- The list with an item in place. -/
def fill (row : Row α) (item : α) : List α :=
  row.before ++ item :: row.after

/-- The index of the item. -/
def index (row : Row α) : Nat :=
  row.before.length

/-- Every other item at its index. -/
def mapIdx (f : Nat → α → β) (row : Row α) : Row β where
  before := row.before.mapIdx f
  after := row.after.mapIdx fun i => f (row.index + 1 + i)

theorem mapIdx_fill (f : Nat → α → β) (row : Row α) (item : α) :
    (row.fill item).mapIdx f = (row.mapIdx f).fill (f row.index item) := by
  rw [fill, List.mapIdx_append, List.mapIdx_cons, fill, mapIdx, Nat.zero_add]
  simp only [index, Nat.add_comm, Nat.add_left_comm]

@[simp] theorem index_mapIdx (f : Nat → α → β) (row : Row α) : (row.mapIdx f).index = row.index :=
  List.length_mapIdx

theorem map_fill (f : α → β) (row : Row α) (item : α) :
    (row.fill item).map f = (Row.mk (row.before.map f) (row.after.map f)).fill (f item) := by
  rw [fill, List.map_append, List.map_cons, fill]

theorem flatten_fill (row : Row (List α)) (items : List α) :
    (row.fill items).flatten = row.before.flatten ++ items ++ row.after.flatten := by
  rw [fill, List.flatten_append, List.flatten_cons, List.append_assoc]

/-- Every item of a list can be left out. -/
theorem exists_fill_eq {list : List α} {i : Nat} {item : α} (here : list[i]? = some item) :
    ∃ row : Row α, row.fill item = list ∧ row.index = i := by
  obtain ⟨h, rfl⟩ := List.getElem?_eq_some_iff.mp here
  refine ⟨⟨list.take i, list.drop (i + 1)⟩, ?_, ?_⟩
  · rw [fill, ← List.drop_eq_getElem_cons h, List.take_append_drop]
  · rw [index, List.length_take, Nat.min_eq_left (Nat.le_of_lt h)]

theorem exists_fill_eq_of_mem {list : List α} {item : α} (member : item ∈ list) :
    ∃ row : Row α, row.fill item = list := by
  obtain ⟨before, after, rfl⟩ := List.append_of_mem member
  exact ⟨⟨before, after⟩, rfl⟩

/-- A field that is put in place is found behind those before it. -/
theorem get?_fill_self (row : Row (String × α)) (name : String) (value : α) :
    Fields.get? (row.fill (name, value)) name = (Fields.get? row.before name).or (some value) := by
  rw [fill, Fields.get?_append, Fields.get?_cons, if_pos rfl]

/-- A field of another name is found as if that one were not there. -/
theorem get?_fill_of_ne (row : Row (String × α)) {name other : String} (ne : name ≠ other)
    (value : α) :
    Fields.get? (row.fill (name, value)) other
      = (Fields.get? row.before other).or (Fields.get? row.after other) := by
  rw [fill, Fields.get?_append, Fields.get?_cons, if_neg ne.symm]

/-- The first field of a name can be left out. -/
theorem exists_fill_eq_of_get? {fields : Fields α} {name : String} {value : α}
    (found : fields.get? name = some value) :
    ∃ row : Row (String × α), row.fill (name, value) = fields ∧
      Fields.get? row.before name = none := by
  induction fields with
  | nil => exact nomatch found
  | cons field rest ih =>
      obtain ⟨other, old⟩ := field
      rw [Fields.get?_cons] at found
      by_cases same : name = other
      · rw [if_pos same] at found
        obtain rfl := same
        obtain rfl := Option.some.inj found
        exact ⟨⟨[], rest⟩, rfl, rfl⟩
      · rw [if_neg same] at found
        obtain ⟨row, rfl, first⟩ := ih found
        refine ⟨⟨(other, old) :: row.before, row.after⟩, rfl, ?_⟩
        rw [Fields.get?_cons, if_neg same, first]

end Row

/-- What is reported about an element itself is read from where its children are declared, its
props, and the slot `key`. -/
theorem Element.anomalies_congr {a b : Element} (props : a.props = b.props)
    (children : a.children.isSome = b.children.isSome)
    (childrenSlot : (a.slot? "children").isSome = (b.slot? "children").isSome)
    (keySlot : a.slot? "key" = b.slot? "key") : a.anomalies = b.anomalies := by
  have sources : a.childrenSources = b.childrenSources := by
    rw [childrenSources, childrenSources, prop?, prop?, props, children, childrenSlot]
  rw [anomalies, anomalies, sources, prop?, prop?, props, keySlot]

/-! ### Gaps -/

/-- A step from an element into what is rendered of it: to one of the children, or to one of the
nodes in a slot. -/
inductive Step where
  | child (index : Nat)
  | slot (name : String) (index : Nat)
deriving DecidableEq

/-- The index among the siblings. -/
def Step.index : Step → Nat
  | child index => index
  | slot _ index => index

/-- An element with one node left out of a list that is rendered. Of the element itself, the list is
not looked at. -/
inductive Gap where
  /-- In the declared children. -/
  | children (host : Element) (row : Row Node)
  /-- In a slot that is rendered as such. -/
  | slot (host : Element) (slots : Row (String × Content)) (name : String) (row : Row Node)
      (isOpen : Element.isReserved name = false)
  /-- In the slot `children`, which stands in for declared children. -/
  | childrenSlot (host : Element) (slots : Row (String × Content)) (row : Row Node)
      (undeclared : host.children = none)
      (first : Fields.get? slots.before "children" = none)

namespace Gap

/-- The element around the gap. -/
def host : Gap → Element
  | children host _ => host
  | slot host _ _ _ _ => host
  | childrenSlot host _ _ _ _ => host

/-- The element with a node in the gap. -/
def fill (gap : Gap) (node : Node) : Element :=
  match gap with
  | children host row => { host with children := some (.nodes (row.fill node)) }
  | slot host slots name row _ => { host with slots := slots.fill (name, .nodes (row.fill node)) }
  | childrenSlot host slots row _ _ =>
    { host with slots := slots.fill ("children", .nodes (row.fill node)) }

/-- The step from the element to the node in the gap. -/
def step : Gap → Step
  | children _ row => .child row.index
  | slot _ _ name row _ => .slot name row.index
  | childrenSlot _ _ row _ _ => .child row.index

@[simp] theorem component_fill (gap : Gap) (node : Node) :
    (gap.fill node).component = gap.host.component := by
  cases gap <;> rfl

@[simp] theorem key_fill (gap : Gap) (node : Node) : (gap.fill node).key = gap.host.key := by
  cases gap <;> rfl

/-- The first slot `children` is found. -/
theorem get?_fill_children {slots : Row (String × Content)}
    (first : Fields.get? slots.before "children" = none) (content : Content) :
    Fields.get? (slots.fill ("children", content)) "children" = some content := by
  rw [Row.get?_fill_self, first, Option.none_or]

theorem ne_of_isOpen {name reserved : String} (isOpen : Element.isReserved name = false)
    (closed : Element.isReserved reserved = true) : name ≠ reserved := by
  rintro rfl
  rw [closed] at isOpen
  exact nomatch isOpen

/-- A slot of a reserved name is there, and shown in messages, whatever node is in a gap in another
slot. -/
theorem slot?_fill_slot {host : Element} {slots : Row (String × Content)} {name : String}
    {row : Row Node} {isOpen : Element.isReserved name = false} {reserved : String}
    (closed : Element.isReserved reserved = true) (node : Node) :
    ((slot host slots name row isOpen).fill node).slot? reserved
      = (Fields.get? slots.before reserved).or (Fields.get? slots.after reserved) :=
  slots.get?_fill_of_ne (ne_of_isOpen isOpen closed) _

/-- **What is reported about an element itself does not depend on the node in its gap.** The
contents that a message shows are those of the slot `key`, and no gap is in there. -/
theorem anomalies_fill (gap : Gap) (node node' : Node) :
    (gap.fill node).anomalies = (gap.fill node').anomalies := by
  cases gap with
  | children host row => rfl
  | slot host slots name row isOpen =>
      have same : ∀ reserved, Element.isReserved reserved = true →
          ((slot host slots name row isOpen).fill node).slot? reserved
            = ((slot host slots name row isOpen).fill node').slot? reserved := by
        intro reserved closed
        rw [slot?_fill_slot closed, slot?_fill_slot closed]
      refine Element.anomalies_congr rfl rfl ?_ (same "key" rfl)
      rw [same "children" rfl]
  | childrenSlot host slots row undeclared first =>
      have key : ∀ content, Fields.get? (slots.fill ("children", content)) "key"
          = (Fields.get? slots.before "key").or (Fields.get? slots.after "key") :=
        slots.get?_fill_of_ne (by decide)
      have children := get?_fill_children first
      refine Element.anomalies_congr rfl rfl ?_ ((key _).trans (key _).symm)
      rw [Element.slot?, fill, children, Element.slot?, fill, children]
      rfl

/-! ### What is rendered of an element with a gap -/

variable (legacy : Bool) (node : Node)

theorem chosenChildren_fill_children (host : Element) (row : Row Node) :
    ((children host row).fill node).chosenChildren legacy = some (.nodes (row.fill node)) := rfl

theorem openSlots_fill_children (host : Element) (row : Row Node) :
    ((children host row).fill node).openSlots = host.openSlots := rfl

section ChildrenSlot

variable {host : Element} {slots : Row (String × Content)} {row : Row Node}
  {undeclared : host.children = none} {first : Fields.get? slots.before "children" = none}

theorem chosenChildren_fill_childrenSlot :
    ((childrenSlot host slots row undeclared first).fill node).chosenChildren legacy
      = some (.nodes (row.fill node)) := by
  rw [Element.chosenChildren, Element.slot?]
  simp only [fill, undeclared, get?_fill_children first]

/-- The slot `children` is not rendered as a slot. -/
theorem openSlots_fill_childrenSlot :
    ((childrenSlot host slots row undeclared first).fill node).openSlots
      = (slots.before ++ slots.after).filter fun slot => !Element.isReserved slot.1 := by
  have reserved : Element.isReserved "children" = true := by decide
  simp [Element.openSlots, fill, Row.fill, List.filter_append, reserved]

end ChildrenSlot

section Slot

variable {host : Element} {slots : Row (String × Content)} {name : String} {row : Row Node}
  {isOpen : Element.isReserved name = false}

/-- A gap in a slot is in one of the slots that are rendered as such. -/
theorem openSlots_fill_slot :
    ((slot host slots name row isOpen).fill node).openSlots
      = (Row.mk (slots.before.filter fun slot => !Element.isReserved slot.1)
          (slots.after.filter fun slot => !Element.isReserved slot.1)).fill
        (name, .nodes (row.fill node)) := by
  simp [Element.openSlots, fill, Row.fill, List.filter_append, isOpen]

/-- The chosen children do not depend on the node in a slot of another name. -/
theorem chosenChildren_fill_slot (node' : Node) :
    ((slot host slots name row isOpen).fill node).chosenChildren legacy
      = ((slot host slots name row isOpen).fill node').chosenChildren legacy := by
  have same : ((slot host slots name row isOpen).fill node).slot? "children"
      = ((slot host slots name row isOpen).fill node').slot? "children" := by
    rw [slot?_fill_slot rfl, slot?_fill_slot rfl]
  rw [Element.chosenChildren, Element.chosenChildren, same]
  rfl

end Slot

end Gap

/-! ### Openings -/

/-- Elements with gaps, outermost first, with a node in the innermost gap. -/
def Gap.nest (gaps : List Gap) (node : Node) : Node :=
  gaps.foldr (fun gap inner => .element (gap.fill inner)) node

/-- A document with one node left out, which stands among the roots or in elements with gaps,
outermost first. -/
structure Opening where
  top : Row Node
  gaps : List Gap

namespace Opening

/-- The roots of the document with a node in place. -/
def fill (opening : Opening) (node : Node) : List Node :=
  opening.top.fill (Gap.nest opening.gaps node)

/-- The steps that lead to the node, the first from the list of the roots. -/
def address (opening : Opening) : List Step :=
  .child opening.top.index :: opening.gaps.map Gap.step

end Opening

/-- A node is rendered as part of an element: it is among the declared children, in a slot that is
rendered as such, or in the slot `children` when no children are declared. -/
inductive Element.Holds (e : Element) (node : Node) : Step → Prop
  | children {items : List Node} {i : Nat} (declared : e.children = some (.nodes items))
      (here : items[i]? = some node) : Holds e node (.child i)
  | slot {name : String} {items : List Node} {i : Nat}
      (filled : (name, .nodes items) ∈ e.openSlots) (here : items[i]? = some node) :
      Holds e node (.slot name i)
  | childrenSlot {items : List Node} {i : Nat} (undeclared : e.children = none)
      (filled : e.slot? "children" = some (.nodes items)) (here : items[i]? = some node) :
      Holds e node (.child i)

/-- A node occurs in a document, at an address. -/
inductive Node.Occurs (roots : List Node) : List Step → Node → Prop
  | root {i : Nat} {node : Node} (here : roots[i]? = some node) : Occurs roots [.child i] node
  | within {address : List Step} {e : Element} {node : Node} {step : Step}
      (outer : Occurs roots address (.element e)) (held : e.Holds node step) :
      Occurs roots (address ++ [step]) node

/-- Every node that an element holds can be left out. -/
theorem Element.Holds.exists_gap {e : Element} {node : Node} {step : Step}
    (held : e.Holds node step) : ∃ gap : Gap, gap.fill node = e ∧ gap.step = step := by
  obtain ⟨component, key, children, props, slots⟩ := e
  cases held with
  | @children items i declared here =>
      obtain ⟨row, rfl, rfl⟩ := Row.exists_fill_eq here
      obtain rfl : children = some (.nodes (row.fill node)) := declared
      exact ⟨.children ⟨component, key, none, props, slots⟩ row, rfl, rfl⟩
  | @slot name items i filled here =>
      obtain ⟨row, rfl, rfl⟩ := Row.exists_fill_eq here
      obtain ⟨member, isOpen⟩ := List.mem_filter.mp filled
      obtain ⟨around, rfl⟩ := Row.exists_fill_eq_of_mem member
      exact ⟨.slot ⟨component, key, children, props, []⟩ around name row (by simpa using isOpen),
        rfl, rfl⟩
  | @childrenSlot items i undeclared filled here =>
      obtain ⟨row, rfl, rfl⟩ := Row.exists_fill_eq here
      obtain ⟨around, rfl, first⟩ := Row.exists_fill_eq_of_get? filled
      exact ⟨.childrenSlot ⟨component, key, children, props, []⟩ around row undeclared first,
        rfl, rfl⟩

namespace Opening

/-- The opening that is left when a node in the innermost gap is an element with a gap. -/
def deepen (opening : Opening) (gap : Gap) : Opening :=
  { opening with gaps := opening.gaps ++ [gap] }

theorem fill_deepen (opening : Opening) (gap : Gap) (node : Node) :
    (opening.deepen gap).fill node = opening.fill (.element (gap.fill node)) := by
  rw [fill, fill, deepen, Gap.nest, List.foldr_append]
  rfl

/-- **Every node that occurs in a document is what fills an opening at its address.** The induction
follows the address. -/
theorem exists_of_occurs {roots : List Node} {address : List Step} {node : Node}
    (occurs : Node.Occurs roots address node) :
    ∃ opening : Opening, opening.fill node = roots ∧ opening.address = address := by
  induction occurs with
  | root here =>
      obtain ⟨row, filled, rfl⟩ := Row.exists_fill_eq here
      exact ⟨⟨row, []⟩, filled, rfl⟩
  | within _ held ih =>
      obtain ⟨opening, filled, rfl⟩ := ih
      obtain ⟨gap, rfl, rfl⟩ := held.exists_gap
      refine ⟨opening.deepen gap, (opening.fill_deepen gap _).trans filled, ?_⟩
      rw [Opening.address, deepen, List.map_append]
      rfl

end Opening

end ComponentTree
