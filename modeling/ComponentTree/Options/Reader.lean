import ComponentTree.Options.Basic
import ComponentTree.Json.Printer
import ComponentTree.Text.Quoted

/-!
Options as JSON values. `null` stands for the defaults; an object gives options by name, some of
which have a second name; an array gives their values in the order of `OptionName.all`, and may end
early. Whatever is not given keeps its default. The first problem that is met is the one reported.
-/

namespace ComponentTree

/-- What kind of value a message names. -/
def Json.kindText : Json → String
  | .null => "null"
  | .bool b => "boolean `" ++ (Json.bool b).text ++ "`"
  | .number (.integer n) => "integer `" ++ (Number.integer n).text ++ "`"
  | .number (.float x) => "floating point `" ++ (Number.float x).text ++ "`"
  | .string s => "string " ++ Text.quoted s
  | .array _ => "sequence"
  | .object _ => "map"

/-- Names between backquotes, with commas. -/
def backquotedList (names : List String) : String :=
  String.intercalate ", " (names.map fun name => "`" ++ name ++ "`")

/-! ### Names -/

/-- The options by name. -/
inductive OptionName where
  | allowUnsecureElements
  | allowUnsecureHtmlElement
  | allowUnsecureCustomElement
  | displayErrorMessage
  | legacyPropsChildren
  | componentKeyCase
  | maxDepth
deriving DecidableEq, Repr

namespace OptionName

/-- All options, in the order of declaration. -/
def all : List OptionName :=
  [allowUnsecureElements, allowUnsecureHtmlElement, allowUnsecureCustomElement,
    displayErrorMessage, legacyPropsChildren, componentKeyCase, maxDepth]

/-- The name of an option. -/
def name : OptionName → String
  | allowUnsecureElements => "allowUnsecureElements"
  | allowUnsecureHtmlElement => "allowUnsecureHtmlElement"
  | allowUnsecureCustomElement => "allowUnsecureCustomElement"
  | displayErrorMessage => "displayErrorMessage"
  | legacyPropsChildren => "legacyPropsChildren"
  | componentKeyCase => "componentKeyCase"
  | maxDepth => "maxDepth"

/-- Every name that an option goes by, in order. -/
def spellings : OptionName → List String
  | allowUnsecureElements => ["allowElements", "allowUnsecureElements"]
  | allowUnsecureHtmlElement => ["allowUnsecureHtmlElement", "htmlElement"]
  | allowUnsecureCustomElement => ["allowUnsecureCustomElement", "customElement"]
  | option => [option.name]

/-- The option that goes by a name. -/
def ofSpelling? (s : String) : Option OptionName :=
  all.find? (·.spellings.contains s)

end OptionName

/-! ### Problems -/

/-- Why a value does not describe options. -/
inductive OptionShapeError where
  /-- A value of another kind was expected. -/
  | wrongKind (found : Json) (expected : String)
  /-- A number out of range. -/
  | wrongValue (found : Json) (expected : String)
  /-- A field that is no option. -/
  | unknownOption (name : String)
  /-- An option given twice. -/
  | repeatedOption (option : OptionName)
  /-- An array with more values than there are options. -/
  | tooManyValues (count : Nat)
  /-- Allowed names that are neither a boolean nor a list of strings. -/
  | noAllowance
  /-- A case policy of no known name. -/
  | unknownCase (name : String)
  /-- A case policy as an object with no field or with several. -/
  | notOneCase

/-- The wording of a problem. -/
def OptionShapeError.message : OptionShapeError → String
  | wrongKind found expected => "invalid type: " ++ found.kindText ++ ", expected " ++ expected
  | wrongValue found expected => "invalid value: " ++ found.kindText ++ ", expected " ++ expected
  | unknownOption name =>
    "unknown field `" ++ name ++ "`, expected one of "
      ++ backquotedList (OptionName.all.flatMap OptionName.spellings)
  | repeatedOption option => "duplicate field `" ++ option.name ++ "`"
  | tooManyValues count =>
    "invalid length " ++ Nat.repr count ++ ", expected fewer elements in array"
  | noAllowance => "data did not match any variant of untagged enum AllowElements"
  | unknownCase name =>
    "unknown variant `" ++ name ++ "`, expected one of "
      ++ backquotedList (KeyCase.all.map KeyCase.name)
  | notOneCase => "invalid value: map, expected map with a single key"

/-! ### Values -/

/-- A boolean. -/
def Json.asBool : Json → Except OptionShapeError Bool
  | .bool b => .ok b
  | value => .error (.wrongKind value "a boolean")

/-- A natural number of 64 bits. -/
def Json.asUInt64 : Json → Except OptionShapeError UInt64
  | .number (.integer n) =>
    if 0 ≤ n ∧ n < twoPow 64 then .ok (.ofNat n.toNat)
    else .error (.wrongValue (.number (.integer n)) "usize")
  | value => .error (.wrongKind value "usize")

/-- Allowed names: a boolean or a list of strings. -/
def AllowElements.ofJson : Json → Except OptionShapeError AllowElements
  | .bool b => .ok (.all b)
  | .array items =>
    match items.mapM Json.string? with
    | some names => .ok (.listed names)
    | none => .error .noAllowance
  | _ => .error .noAllowance

/-- Allowed names as a value. -/
def AllowElements.toJson : AllowElements → Json
  | all value => .bool value
  | listed names => .array (names.map .string)

/-- A case policy: its name, or an object whose one field has that name and holds `null`. -/
def KeyCase.ofJson : Json → Except OptionShapeError KeyCase
  | .string name =>
    match KeyCase.ofName? name with
    | some case => .ok case
    | none => .error (.unknownCase name)
  | .object [(name, value)] =>
    match KeyCase.ofName? name with
    | some case => if value.isNull then .ok case else .error (.wrongKind value "unit")
    | none => .error (.unknownCase name)
  | .object _ => .error .notOneCase
  | value => .error (.wrongKind value "string or map")

/-! ### Options -/

namespace Options

/-- Sets one option. -/
def set (o : Options) (option : OptionName) (value : Json) : Except OptionShapeError Options :=
  match option with
  | .allowUnsecureElements =>
    (AllowElements.ofJson value).map fun v => { o with allowUnsecureElements := v }
  | .allowUnsecureHtmlElement =>
    value.asBool.map fun v => { o with allowUnsecureHtmlElement := v }
  | .allowUnsecureCustomElement =>
    value.asBool.map fun v => { o with allowUnsecureCustomElement := v }
  | .displayErrorMessage => value.asBool.map fun v => { o with displayErrorMessage := v }
  | .legacyPropsChildren => value.asBool.map fun v => { o with legacyPropsChildren := v }
  | .componentKeyCase => (KeyCase.ofJson value).map fun v => { o with componentKeyCase := v }
  | .maxDepth => value.asUInt64.map fun v => { o with maxDepth := v }

/-- Sets options by name; `given` holds those that were already set. -/
def setFields (given : List OptionName) (o : Options) :
    Fields Json → Except OptionShapeError Options
  | [] => .ok o
  | (name, value) :: rest =>
    match OptionName.ofSpelling? name with
    | none => .error (.unknownOption name)
    | some option =>
      if option ∈ given then .error (.repeatedOption option)
      else do setFields (option :: given) (← o.set option value) rest

/-- Sets options in the order of a list of their names. Values beyond the list are left over. -/
def setInOrder (o : Options) : List OptionName → List Json → Except OptionShapeError Options
  | option :: more, value :: rest => do setInOrder (← o.set option value) more rest
  | _, _ => .ok o

/-- Options from a JSON value. -/
def ofJson : Json → Except OptionShapeError Options
  | .null => .ok {}
  | .object fields => setFields [] {} fields
  | .array items => do
    let o ← setInOrder {} OptionName.all items
    if OptionName.all.length < items.length then .error (.tooManyValues items.length) else .ok o
  | value => .error (.wrongKind value "struct ParserOptions")

/-- Options as a JSON value, with every option present. -/
def toJson (o : Options) : Json :=
  .object
    [("allowUnsecureCustomElement", .bool o.allowUnsecureCustomElement),
      ("allowUnsecureElements", o.allowUnsecureElements.toJson),
      ("allowUnsecureHtmlElement", .bool o.allowUnsecureHtmlElement),
      ("componentKeyCase", .string o.componentKeyCase.name),
      ("displayErrorMessage", .bool o.displayErrorMessage),
      ("legacyPropsChildren", .bool o.legacyPropsChildren),
      ("maxDepth", .ofInt o.maxDepth.toNat)]

end Options

end ComponentTree
