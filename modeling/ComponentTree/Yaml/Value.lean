import ComponentTree.Json.Printer
import ComponentTree.Yaml.Scalar

/-!
YAML values and their form as JSON values. A value with a name of its own becomes an object of one
field. The keys of a mapping become names of fields where that is possible; of two keys with one
name the later counts. A number that is not finite becomes null.
-/

namespace ComponentTree.Yaml

/-- A value. -/
inductive Value where
  | scalar (value : Scalar)
  | sequence (items : List Value)
  | mapping (pairs : List (Value × Value))
  /-- A value under a name that its tag gives it. -/
  | named (name : String) (content : Value)

/-- Why a key cannot be the name of a field. -/
inductive KeyFault where
  | notAString
  | notFinite
deriving DecidableEq

/-- The wording of a fault. -/
def KeyFault.message : KeyFault → String
  | notAString => "key must be a string"
  | notFinite => "float key must be finite (got NaN or +/-inf)"

/-- The name without the exclamation mark before it. A lone mark is a name. -/
def bareName (name : String) : List Char :=
  match name.toList with
  | '!' :: c :: rest => c :: rest
  | cs => cs

namespace Value

mutual

/-- Whether two values are equal. The order of the pairs of a mapping makes no difference. -/
def same : Value → Value → Bool
  | scalar a, scalar b => a.same b
  | sequence a, sequence b => sameItems a b
  | mapping a, mapping b => a.length = b.length && samePairs a b
  | named a x, named b y => bareName a = bareName b && x.same y
  | _, _ => false

def sameItems : List Value → List Value → Bool
  | [], [] => true
  | a :: as, b :: bs => a.same b && sameItems as bs
  | _, _ => false

/-- Whether each of the pairs is among the others. -/
def samePairs : List (Value × Value) → List (Value × Value) → Bool
  | [], _ => true
  | (key, value) :: rest, others =>
    others.any (fun other => key.same other.1 && value.same other.2) && samePairs rest others

end

/-- Whether no two keys are equal. -/
def distinctKeys : List (Value × Value) → Bool
  | [] => true
  | (key, _) :: rest => !rest.any (fun other => key.same other.1) && distinctKeys rest

/-! ### As JSON -/

/-- A scalar as a JSON value. -/
def scalarToJson : Scalar → Json
  | .null | .infinite _ | .notANumber => .null
  | .bool b => .bool b
  | .integer n => .ofInt n
  | .float x => .number (.float x)
  | .text s => .string s

/-- The name of the field that a key stands for. -/
def fieldName : Value → Except KeyFault String
  | scalar (.text s) => .ok s
  | scalar (.bool b) => .ok (if b then "true" else "false")
  | scalar (.integer n) => .ok (Number.integer n).text
  | scalar (.float x) => .ok (Number.float x).text
  | scalar (.infinite _) | scalar .notANumber => .error .notFinite
  | scalar .null | sequence _ | mapping _ | named _ _ => .error .notAString

mutual

/-- The value as JSON. -/
def toJson : Value → Except KeyFault Json
  | scalar value => .ok (scalarToJson value)
  | sequence items => do return .array (← itemsToJson items)
  | mapping pairs => do return .object (← pairsToJson pairs [])
  | named name content => do
    return .object [(String.ofList ('!' :: bareName name), ← content.toJson)]

def itemsToJson : List Value → Except KeyFault (List Json)
  | [] => .ok []
  | item :: rest => do return (← item.toJson) :: (← itemsToJson rest)

/-- Adds pairs to the fields of an object. -/
def pairsToJson : List (Value × Value) → Fields Json → Except KeyFault (Fields Json)
  | [], fields => .ok fields
  | (key, value) :: rest, fields => do
    let name ← key.fieldName
    pairsToJson rest (fields.insert name (← value.toJson))

end

end Value

end ComponentTree.Yaml
