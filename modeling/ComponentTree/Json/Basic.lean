import ComponentTree.Fields
import ComponentTree.Decimal.Binary64

/-!
JSON values. An integer is kept apart from a floating-point number, and the fields of an object
are kept as a list: a reader builds it with `Fields.insert`, so that what comes out of source text
has its names in increasing order.
-/

namespace ComponentTree

/-- A JSON number. -/
inductive Number where
  | integer (value : Int)
  | float (value : Binary64)
deriving DecidableEq, Inhabited

/-- A JSON value. -/
inductive Json where
  | null
  | bool (value : Bool)
  | number (value : Number)
  | string (value : String)
  | array (items : List Json)
  | object (fields : List (String × Json))
deriving Inhabited

namespace Json

/-- Whether the value is `null`. -/
def isNull : Json → Bool
  | null => true
  | _ => false

/-- The fields of an object. -/
def fields? : Json → Option (Fields Json)
  | object fields => some fields
  | _ => none

/-- The items of an array. -/
def items? : Json → Option (List Json)
  | array items => some items
  | _ => none

/-- The content of a string. -/
def string? : Json → Option String
  | string value => some value
  | _ => none

/-- The value under a name of an object. -/
def get? (value : Json) (name : String) : Option Json :=
  value.fields?.bind (·.get? name)

/-- An integer. -/
def ofInt (n : Int) : Json :=
  number (.integer n)

mutual

/-- The names of every object inside the value are strictly increasing. -/
def Sorted : Json → Prop
  | null | bool _ | number _ | string _ => True
  | array items => SortedItems items
  | object fields => Fields.Sorted fields ∧ SortedFields fields

def SortedItems : List Json → Prop
  | [] => True
  | item :: rest => item.Sorted ∧ SortedItems rest

def SortedFields : List (String × Json) → Prop
  | [] => True
  | (_, value) :: rest => value.Sorted ∧ SortedFields rest

end

end Json

end ComponentTree
