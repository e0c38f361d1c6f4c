import ComponentTree.KeyCase
import ComponentTree.Text.Blank

/-!
Options. `Options` is what a caller asks for; `Options.resolve` checks it and merges the wildcard
into both element flags, which gives the `Settings` that every render uses.
-/

namespace ComponentTree

/-- Names that are admitted without being registered. -/
inductive AllowElements where
  /-- Every name, or none. -/
  | all (value : Bool)
  /-- Exactly these names. -/
  | listed (names : List String)
deriving DecidableEq

/-- What a caller asks for. -/
structure Options where
  allowUnsecureElements : AllowElements := .all false
  allowUnsecureHtmlElement : Bool := false
  allowUnsecureCustomElement : Bool := false
  displayErrorMessage : Bool := true
  legacyPropsChildren : Bool := false
  componentKeyCase : KeyCase := .preserve
  maxDepth : UInt64 := 256
deriving DecidableEq

instance : Inhabited Options := ⟨{}⟩

/-- Checked options. -/
structure Settings where
  allowAllElements : Bool := false
  allowedElements : List String := []
  allowUnsecureHtmlElement : Bool := false
  allowUnsecureCustomElement : Bool := false
  displayErrorMessage : Bool := true
  legacyPropsChildren : Bool := false
  componentKeyCase : KeyCase := .preserve
  maxDepth : Nat := 256
deriving DecidableEq

instance : Inhabited Settings := ⟨{}⟩

/-- Whether a name is admitted by the wildcard or the list of allowed names. -/
def Settings.isAllowListed (s : Settings) (name : String) : Bool :=
  s.allowAllElements || s.allowedElements.contains name

/-- Options of the right type that cannot be used. -/
inductive OptionFault where
  /-- The greatest depth is zero. -/
  | zeroDepth
  /-- An allowed name is blank; `index` counts from zero. -/
  | blankEntry (index : Nat)
deriving DecidableEq, Repr

namespace OptionFault

/-- The option at fault. -/
def field : OptionFault → String
  | zeroDepth => "maxDepth"
  | blankEntry _ => "allowUnsecureElements"

/-- What is wrong with it. -/
def detail : OptionFault → String
  | zeroDepth => "must be at least 1"
  | blankEntry index => "entry " ++ Nat.repr index ++ " is an empty name"

/-- The wording of a fault. -/
def message (fault : OptionFault) : String :=
  "Invalid option `" ++ fault.field ++ "`: " ++ fault.detail

end OptionFault

namespace AllowElements

/-- Whether every name is admitted. -/
def isWildcard : AllowElements → Bool
  | all value => value
  | listed _ => false

/-- The names that are listed. -/
def names : AllowElements → List String
  | all _ => []
  | listed names => names

end AllowElements

namespace Options

/-- The first fault of the options: a depth of zero, then a blank name in the list. -/
def fault? (o : Options) : Option OptionFault :=
  if o.maxDepth = 0 then some .zeroDepth
  else (o.allowUnsecureElements.names.findIdx? Text.allBlank).map .blankEntry

/-- The settings for options without fault. The wildcard turns on both element flags. -/
def settings (o : Options) : Settings where
  allowAllElements := o.allowUnsecureElements.isWildcard
  allowedElements := o.allowUnsecureElements.names
  allowUnsecureHtmlElement := o.allowUnsecureHtmlElement || o.allowUnsecureElements.isWildcard
  allowUnsecureCustomElement := o.allowUnsecureCustomElement || o.allowUnsecureElements.isWildcard
  displayErrorMessage := o.displayErrorMessage
  legacyPropsChildren := o.legacyPropsChildren
  componentKeyCase := o.componentKeyCase
  maxDepth := o.maxDepth.toNat

/-- Checks the options. -/
def resolve (o : Options) : Except OptionFault Settings :=
  match o.fault? with
  | some fault => .error fault
  | none => .ok o.settings

/-- The default options resolve to the default settings. -/
theorem resolve_default : resolve {} = .ok {} := by rfl

end Options

end ComponentTree
