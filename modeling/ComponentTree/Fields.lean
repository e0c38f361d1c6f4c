/-!
Named fields kept as a list of pairs. `insert` places a name at its rank in the order of strings
(which is the order of their UTF-8 bytes) and replaces the value of a name that is already there,
so whatever is built by `insert` alone satisfies `Sorted`: its names are strictly increasing.
The readers `get?` and `contains` make no use of the order.
-/

namespace ComponentTree

/-- Values under names, in the order in which they are listed. -/
abbrev Fields (α : Type) := List (String × α)

namespace Fields

variable {α : Type}

/-- The value under `name`. -/
def get? (fields : Fields α) (name : String) : Option α :=
  fields.lookup name

/-- Whether some value is under `name`. -/
def contains (fields : Fields α) (name : String) : Bool :=
  (fields.get? name).isSome

/-- The names, in the order of the fields. -/
def names (fields : Fields α) : List String :=
  fields.map (·.1)

/-- Sets the value under `name`, at the place that the order of names gives it. -/
def insert (name : String) (value : α) : Fields α → Fields α
  | [] => [(name, value)]
  | (other, old) :: rest =>
    if name < other then (name, value) :: (other, old) :: rest
    else if name = other then (name, value) :: rest
    else (other, old) :: insert name value rest

/-- The fields of a list of pairs; of two pairs with one name the later counts. -/
def ofList (pairs : List (String × α)) : Fields α :=
  pairs.foldl (fun fields pair => fields.insert pair.1 pair.2) []

/-- Leaves out every value under `name`. -/
def erase (name : String) (fields : Fields α) : Fields α :=
  fields.filter (·.1 != name)

/-- The names are strictly increasing. -/
def Sorted (fields : Fields α) : Prop :=
  fields.Pairwise fun a b => a.1 < b.1

/-! ### Reading what was written -/

@[simp] theorem get?_nil (name : String) : get? ([] : Fields α) name = none := rfl

theorem get?_cons (name other : String) (value : α) (rest : Fields α) :
    get? ((other, value) :: rest) name = if name = other then some value else get? rest name := by
  by_cases h : name = other <;> simp [get?, List.lookup_cons, h, beq_eq_false_iff_ne.mpr]

theorem get?_append (fields more : Fields α) (name : String) :
    get? (fields ++ more) name = (fields.get? name).or (more.get? name) :=
  List.lookup_append

/-- What reads the first field of a name, and passes over the others, reads what is found under that
name. -/
theorem eq_elim_get? {β : Type} {read : Fields α → β} {name : String} {absent : β}
    {found : α → β} (nil : read [] = absent)
    (cons : ∀ other value rest,
      read ((other, value) :: rest) = if other = name then found value else read rest)
    (fields : Fields α) : read fields = (fields.get? name).elim absent found := by
  induction fields with
  | nil => exact nil
  | cons field rest ih =>
      obtain ⟨other, value⟩ := field
      rw [cons, get?_cons]
      by_cases h : other = name
      · rw [if_pos h, if_pos h.symm]
        rfl
      · rw [if_neg h, if_neg (Ne.symm h), ih]

/-- A value that was set is found. -/
@[simp] theorem get?_insert_self (name : String) (value : α) (fields : Fields α) :
    get? (insert name value fields) name = some value := by
  induction fields with
  | nil => simp [insert, get?_cons]
  | cons field rest ih =>
    obtain ⟨other, old⟩ := field
    simp only [insert]
    split
    · simp [get?_cons]
    · split
      · simp [get?_cons]
      · next h => simp [get?_cons, h, ih]

/-- Setting one name does not touch another. -/
theorem get?_insert_of_ne {name other : String} (h : other ≠ name) (value : α)
    (fields : Fields α) : get? (insert name value fields) other = get? fields other := by
  induction fields with
  | nil => simp [insert, get?_cons, h]
  | cons field rest ih =>
    obtain ⟨n, old⟩ := field
    simp only [insert]
    split
    · simp [get?_cons, h]
    · split
      · next hn => subst hn; simp [get?_cons, h]
      · simp [get?_cons, ih]

end Fields

end ComponentTree
