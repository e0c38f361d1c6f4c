import ComponentTree.Text.Words

/-!
The spelling that a registry gives its keys. Apart from `preserve`, a policy takes the words of a
name and writes them again: in lower case joined by a mark, or run together with capitals.
-/

namespace ComponentTree

/-- Case policy of registry keys. -/
inductive KeyCase where
  /-- Keys as they are written. -/
  | preserve
  /-- Words as in `my-widget`. -/
  | kebab
  /-- Words as in `myWidget`. -/
  | camel
  /-- Words as in `MyWidget`. -/
  | pascal
  /-- Words as in `my_widget`. -/
  | snake
deriving DecidableEq, Inhabited

namespace KeyCase

/-- All policies, in the order in which messages name them. -/
def all : List KeyCase := [preserve, kebab, camel, pascal, snake]

/-- The name of a policy in options. -/
def name : KeyCase → String
  | preserve => "preserve"
  | kebab => "kebab"
  | camel => "camel"
  | pascal => "pascal"
  | snake => "snake"

/-- The policy of a given name. -/
def ofName? (s : String) : Option KeyCase :=
  all.find? (·.name == s)

@[simp] theorem ofName?_name (case : KeyCase) : ofName? case.name = some case := by
  cases case <;> decide

open Text in
/-- The words of a name, written in the spelling of a policy. -/
def spell (case : KeyCase) (words : List (List Char)) : List Char :=
  match case with
  | preserve => words.flatten
  | kebab => List.intercalate ['-'] (words.map lowerWord)
  | snake => List.intercalate ['_'] (words.map lowerWord)
  | camel =>
    match words with
    | [] => []
    | first :: rest => lowerWord first ++ rest.flatMap capitalize
  | pascal => words.flatMap capitalize

/-- Whether the policy changes names. -/
def isActive (case : KeyCase) : Bool :=
  case != preserve

/-- A name in the spelling of a policy. -/
def apply (case : KeyCase) (name : String) : String :=
  if case.isActive then String.ofList (case.spell (Text.words name.toList)) else name

@[simp] theorem apply_preserve (name : String) : apply preserve name = name := rfl

end KeyCase

end ComponentTree
