import ComponentTree.Instance.Basic
import ComponentTree.Registry
import ComponentTree.Options.Basic
import ComponentTree.Diagnostic

/-!
Resolving the name of a component. The first rule that applies decides: the registered component;
a tag, for a name that is allowed, that looks like a custom element when those are admitted, or
that looks like an HTML element when those are; or nothing, with a diagnostic. The empty name, which
stands for an element without a usable component, is never a tag.
-/

namespace ComponentTree

/-- Whether a name has neither a hyphen nor an upper-case letter from A to Z. -/
def isHtmlLike (name : String) : Bool :=
  !name.toList.any fun c => c.isUpper || c == '-'

/-- Whether a name has a hyphen. -/
def isCustomElementLike (name : String) : Bool :=
  name.toList.contains '-'

/-- What a name looks like. -/
inductive ElementKind where
  /-- As `div`. -/
  | html
  /-- As `my-widget`. -/
  | customElement
  /-- As `MyWidget`. -/
  | component
deriving DecidableEq, Repr

/-- What a name looks like. -/
def ElementKind.ofName (name : String) : ElementKind :=
  if isCustomElementLike name then .customElement
  else if isHtmlLike name then .html
  else .component

/-- A name never looks like both kinds of element. -/
theorem not_isHtmlLike_of_isCustomElementLike {name : String} (h : isCustomElementLike name) :
    isHtmlLike name = false := by
  simp only [isCustomElementLike, List.contains_iff_mem] at h
  simp only [isHtmlLike, Bool.not_eq_false', List.any_eq_true]
  exact ⟨'-', h, by decide⟩

/-- The rule that decided about a name. -/
inductive ResolutionKind where
  | registered
  | allowListed
  | customElement
  | htmlElement
  | null
deriving DecidableEq, Repr

/-- The name of a rule in traces. -/
def ResolutionKind.label : ResolutionKind → String
  | registered => "Registered"
  | allowListed => "AllowListed"
  | customElement => "CustomElement"
  | htmlElement => "HtmlElement"
  | null => "Null"

/-- What became of a name. The diagnostic has no position yet. -/
structure Resolution (ρ : Type) where
  renderable : Renderable ρ
  kind : ResolutionKind
  diagnostic : Option Diagnostic := none
deriving DecidableEq

/-- The rule that admits a name as a tag, if there is one. -/
def Settings.tagRule? (s : Settings) (name : String) : Option ResolutionKind :=
  if name.isEmpty then none
  else if s.isAllowListed name then some .allowListed
  else if isCustomElementLike name && s.allowUnsecureCustomElement then some .customElement
  else if isHtmlLike name && s.allowUnsecureHtmlElement then some .htmlElement
  else none

/-- The report that a name is not available, with the advice that its look suggests. -/
def Diagnostic.ofUnavailable (name : String) : Diagnostic where
  component := name
  path := ""
  anomaly := .unavailable (!name.isEmpty && isHtmlLike name) (isCustomElementLike name)

/-- Resolves the name of a component. -/
def resolve {ρ : Type} (name : String) (registry : Registry ρ) (settings : Settings) :
    Resolution ρ :=
  match registry.get? name with
  | some reference => { renderable := .component reference, kind := .registered }
  | none =>
    match settings.tagRule? name with
    | some kind => { renderable := .tag name, kind }
    | none =>
      { renderable := .null
        kind := .null
        diagnostic := if settings.displayErrorMessage then some (.ofUnavailable name) else none }

end ComponentTree
