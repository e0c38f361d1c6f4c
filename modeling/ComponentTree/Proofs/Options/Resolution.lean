import ComponentTree.Options.Basic
import Mathlib.Data.List.DropRight

/-!
Checking options. Options are accepted if the greatest depth is not zero and no name of their list
is blank; of several faults the depth is reported, or else the first blank name.

* `Text.trimmed` — a text without the blank characters at its ends; `trimmed_eq_empty_iff` — it is
  empty exactly when all of the text is blank.
* `resolve_eq_ok_iff`, `resolve_eq_error_iff` — the outcome of the check; `exists_resolve_iff` —
  when options are accepted.
* `fault?_eq_zeroDepth_iff`, `fault?_eq_blankEntry_iff`, `fault?_eq_none_iff` — which fault, if any.
* `Options.MergesTo` — how settings stand to the options that they come from.
-/

namespace ComponentTree

/-! ### Blank texts -/

namespace Text

/-- A text without the blank characters at its ends. -/
def trimmed (s : String) : String :=
  String.ofList ((s.toList.dropWhile isBlank).rdropWhile isBlank)

/-- Nothing is left of a text that is trimmed exactly when all of it is blank. -/
theorem trimmed_eq_empty_iff {s : String} : trimmed s = "" ↔ allBlank s = true := by
  have empty : trimmed s = "" ↔ (s.toList.dropWhile isBlank).rdropWhile isBlank = [] := by
    rw [trimmed, ← String.toList_inj, String.toList_ofList]
    rfl
  rw [empty, List.rdropWhile_eq_nil_iff, allBlank, List.all_eq_true]
  constructor
  · intro blank c hc
    rw [← List.takeWhile_append_dropWhile (p := isBlank) (l := s.toList), List.mem_append] at hc
    exact hc.elim (fun h => List.mem_takeWhile_imp h) (blank c)
  · intro blank c hc
    exact blank c ((List.dropWhile_sublist _).subset hc)

theorem trimmed_ne_empty_iff {s : String} : trimmed s ≠ "" ↔ allBlank s = false := by
  rw [ne_eq, trimmed_eq_empty_iff, Bool.not_eq_true]

end Text

/-! ### The outcome of the check -/

/-- The place of the first item that meets a test. -/
theorem findIdx?_eq_some_iff_take {α : Type} {p : α → Bool} {items : List α} {index : Nat} :
    items.findIdx? p = some index ↔
      ∃ item, items[index]? = some item ∧ p item = true ∧
        ∀ other ∈ items.take index, p other = false := by
  induction items generalizing index with
  | nil => simp
  | cons first rest ih =>
      rw [List.findIdx?_cons]
      cases index with
      | zero => cases hfirst : p first <;> simp [hfirst]
      | succ index =>
          cases hfirst : p first <;> simp [hfirst, ih]

section Outcome

variable {o : Options}

theorem resolve_eq_ok_iff {s : Settings} :
    o.resolve = .ok s ↔ o.fault? = none ∧ o.settings = s := by
  unfold Options.resolve
  cases o.fault? with
  | some fault => simp
  | none => simp

theorem resolve_eq_error_iff {fault : OptionFault} :
    o.resolve = .error fault ↔ o.fault? = some fault := by
  unfold Options.resolve
  cases o.fault? with
  | some found => simp
  | none => simp

/-- A greatest depth of zero is reported whatever else is wrong. -/
theorem fault?_eq_zeroDepth_iff : o.fault? = some .zeroDepth ↔ o.maxDepth = 0 := by
  unfold Options.fault?
  split
  · next zero => simp [zero]
  · next positive => simp [positive]

/-- The first blank name is reported, if the depth is not at fault. -/
theorem fault?_eq_blankEntry_iff {index : Nat} :
    o.fault? = some (.blankEntry index) ↔
      o.maxDepth ≠ 0 ∧ ∃ name, o.allowUnsecureElements.names[index]? = some name ∧
        Text.trimmed name = "" ∧
        ∀ other ∈ o.allowUnsecureElements.names.take index, Text.trimmed other ≠ "" := by
  unfold Options.fault?
  split
  · next zero => simp [zero]
  · next positive =>
      simp only [Option.map_eq_some_iff, OptionFault.blankEntry.injEq, exists_eq_right,
        findIdx?_eq_some_iff_take, Text.trimmed_eq_empty_iff, Text.trimmed_ne_empty_iff]
      exact (and_iff_right positive).symm

theorem fault?_eq_none_iff :
    o.fault? = none ↔
      o.maxDepth ≠ 0 ∧ ∀ name ∈ o.allowUnsecureElements.names, Text.trimmed name ≠ "" := by
  unfold Options.fault?
  split
  · next zero => simp [zero]
  · next positive =>
      simp only [Option.map_eq_none_iff, List.findIdx?_eq_none_iff, Text.trimmed_ne_empty_iff]
      exact (and_iff_right positive).symm

/-- Options are accepted exactly if the depth is at least one and no listed name is blank. -/
theorem exists_resolve_iff :
    (∃ s, o.resolve = .ok s) ↔
      1 ≤ o.maxDepth ∧ ∀ name ∈ o.allowUnsecureElements.names, Text.trimmed name ≠ "" := by
  have positive : 1 ≤ o.maxDepth ↔ o.maxDepth ≠ 0 := by
    rw [UInt64.le_iff_toNat_le, ne_eq, ← UInt64.toNat_inj]
    exact Nat.one_le_iff_ne_zero
  rw [positive, ← fault?_eq_none_iff]
  constructor
  · rintro ⟨s, accepted⟩
    exact (resolve_eq_ok_iff.mp accepted).1
  · intro faultless
    exact ⟨o.settings, resolve_eq_ok_iff.mpr ⟨faultless, rfl⟩⟩

end Outcome

/-! ### What is accepted -/

/-- Settings are options with the wildcard merged into both element flags. -/
structure Options.MergesTo (o : Options) (s : Settings) : Prop where
  wildcard : s.allowAllElements = true ↔ o.allowUnsecureElements = .all true
  /-- A flag is on only if it was set, or by the wildcard. -/
  html : s.allowUnsecureHtmlElement = true ↔
    o.allowUnsecureHtmlElement = true ∨ o.allowUnsecureElements = .all true
  customElement : s.allowUnsecureCustomElement = true ↔
    o.allowUnsecureCustomElement = true ∨ o.allowUnsecureElements = .all true
  /-- The wildcard lists every name. -/
  listed : ∀ name, s.isAllowListed name = true ↔
    o.allowUnsecureElements = .all true ∨ name ∈ o.allowUnsecureElements.names
  displayErrorMessage : s.displayErrorMessage = o.displayErrorMessage
  legacyPropsChildren : s.legacyPropsChildren = o.legacyPropsChildren
  componentKeyCase : s.componentKeyCase = o.componentKeyCase
  maxDepth : s.maxDepth = o.maxDepth.toNat

theorem isWildcard_iff {allowed : AllowElements} :
    allowed.isWildcard = true ↔ allowed = .all true := by
  cases allowed with
  | all value => rw [AllowElements.isWildcard, AllowElements.all.injEq]
  | listed names => exact ⟨nofun, nofun⟩

theorem Options.mergesTo_settings (o : Options) : o.MergesTo o.settings where
  wildcard := isWildcard_iff
  html := by rw [settings, Bool.or_eq_true, isWildcard_iff]
  customElement := by rw [settings, Bool.or_eq_true, isWildcard_iff]
  listed name := by
    rw [Settings.isAllowListed, Bool.or_eq_true, List.contains_iff_mem, settings, isWildcard_iff]
  displayErrorMessage := rfl
  legacyPropsChildren := rfl
  componentKeyCase := rfl
  maxDepth := rfl

end ComponentTree
