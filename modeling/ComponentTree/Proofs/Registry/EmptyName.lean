import ComponentTree.Proofs.Registry.Lookup
import ComponentTree.Proofs.Render.Visits

/-!
Elements without a usable component. They are loaded with the empty name, which is never a tag; but
it is looked up like any other name, and it finds an entry of whose name the policy leaves nothing.

* `flatten_words` — the words of a name hold its letters and numbers, and nothing else.
* `KeyCase.apply_eq_empty_iff` — exactly which names have an empty key.
* `nameless_null_iff` — exactly when elements without a component render nothing, and what is
  reported of them then; `nameless_registered` has two registries in which they render.
-/

namespace ComponentTree

variable {ρ : Type}

namespace Text

/-! ### The characters of words -/

theorem flatten_pieces (piece name : List Char) :
    (pieces piece name).flatten = piece.reverse ++ name.filter isAlphanumeric := by
  induction name generalizing piece with
  | nil => simp [pieces]
  | cons c name ih => cases hc : isAlphanumeric c <;> simp [pieces, hc, ih]

/-- The words of a name hold its letters and numbers in order, and nothing else. -/
theorem flatten_words (name : List Char) : (words name).flatten = name.filter isAlphanumeric := by
  have cut : ∀ ps : List (List Char),
      (ps.flatMap (cutPiece .none [])).flatten = ps.flatten := by
    intro ps
    induction ps with
    | nil => rfl
    | cons p ps ih =>
      rw [List.flatMap_cons, List.flatten_append, flatten_cutPiece, ih]
      rfl
  rw [words, cut, flatten_pieces]
  rfl

/-- A name has no words exactly when it has no letters and no numbers. -/
theorem words_eq_nil_iff (name : List Char) :
    words name = [] ↔ ∀ c ∈ name, isAlphanumeric c = false :=
  calc words name = []
    _ ↔ (words name).flatten = [] := by
      rw [List.flatten_eq_nil_iff]
      refine ⟨fun none => by simp [none], fun empty => ?_⟩
      exact List.eq_nil_iff_forall_not_mem.mpr fun w hw => (mem_words hw).1 (empty w hw)
    _ ↔ ∀ c ∈ name, isAlphanumeric c = false := by
      rw [flatten_words, List.filter_eq_nil_iff]
      simp only [Bool.not_eq_true]

/-! ### Spelling a word again -/

theorem counterpart_ne_nil {expansions : Array (Nat × List Nat)} {shifts : Array ShiftRun}
    (several : ∀ expansion ∈ expansions.toList, expansion.2 ≠ []) (c : Char) :
    counterpart expansions shifts c ≠ [] := by
  unfold counterpart
  split
  · next code codes found =>
    have member := Array.mem_of_find?_eq_some found
    simpa using several _ member.val
  · split <;> simp

theorem lower_ne_nil (c : Char) : lower c ≠ [] := by
  unfold lower
  split
  · simp
  · exact counterpart_ne_nil (by decide) c

theorem upper_ne_nil (c : Char) : upper c ≠ [] := by
  unfold upper
  split
  · simp
  · exact counterpart_ne_nil (by decide) c

theorem lowerWord_ne_nil {word : List Char} (ne : word ≠ []) : lowerWord word ≠ [] := by
  fun_cases lowerWord word with
  | case1 => exact absurd rfl ne
  | case2 => simp
  | case3 c _ => exact lower_ne_nil c
  | case4 c rest _ => exact List.append_ne_nil_of_left_ne_nil (lower_ne_nil c) _

theorem capitalize_ne_nil {word : List Char} (ne : word ≠ []) : capitalize word ≠ [] := by
  cases word with
  | nil => exact absurd rfl ne
  | cons c rest => exact List.append_ne_nil_of_left_ne_nil (upper_ne_nil c) _

end Text

/-! ### Names of which nothing is left -/

namespace KeyCase

/-- A policy leaves nothing of a name: it has no letter and no number, or, where names stay as they
are written, it is empty. -/
def LeavesNothing (case : KeyCase) (name : String) : Prop :=
  match case with
  | preserve => name = ""
  | kebab | camel | pascal | snake => ∀ c ∈ name.toList, Text.isAlphanumeric c = false

theorem intercalate_ne_nil {mark w : List Char} {ws : List (List Char)} (ne : w ≠ []) :
    List.intercalate mark (w :: ws) ≠ [] := by
  cases ws with
  | nil => simpa using ne
  | cons next rest =>
    rw [List.intercalate_cons_cons, List.append_assoc]
    exact List.append_ne_nil_of_left_ne_nil ne _

/-- Words are never spelled as nothing. -/
theorem spell_ne_nil (case : KeyCase) {w : List Char} (ne : w ≠ []) (ws : List (List Char)) :
    case.spell (w :: ws) ≠ [] := by
  cases case with
  | preserve => exact List.append_ne_nil_of_left_ne_nil ne _
  | kebab => exact intercalate_ne_nil (Text.lowerWord_ne_nil ne)
  | snake => exact intercalate_ne_nil (Text.lowerWord_ne_nil ne)
  | camel => exact List.append_ne_nil_of_left_ne_nil (Text.lowerWord_ne_nil ne) _
  | pascal => exact List.append_ne_nil_of_left_ne_nil (Text.capitalize_ne_nil ne) _

theorem spell_words_eq_nil_iff (case : KeyCase) (name : List Char) :
    case.spell (Text.words name) = [] ↔ ∀ c ∈ name, Text.isAlphanumeric c = false := by
  rw [← Text.words_eq_nil_iff]
  cases hwords : Text.words name with
  | nil => cases case <;> simp [spell]
  | cons w ws =>
    have ne : w ≠ [] := (Text.mem_words (hwords ▸ List.mem_cons_self)).1
    simp [spell_ne_nil case ne ws]

/-- **Names with an empty key** are exactly those of which the policy leaves nothing. -/
theorem apply_eq_empty_iff (case : KeyCase) (name : String) :
    case.apply name = "" ↔ case.LeavesNothing name := by
  have spelled : String.ofList (case.spell (Text.words name.toList)) = "" ↔
      ∀ c ∈ name.toList, Text.isAlphanumeric c = false := by
    rw [← spell_words_eq_nil_iff case, ← String.toList_inj, String.toList_ofList]
    rfl
  cases case with
  | preserve => rfl
  | kebab | camel | pascal | snake => exact spelled

instance (case : KeyCase) (name : String) : Decidable (case.LeavesNothing name) :=
  decidable_of_iff _ (apply_eq_empty_iff case name)

theorem apply_empty (case : KeyCase) : case.apply "" = "" := by
  rw [apply_eq_empty_iff]
  cases case with
  | preserve => rfl
  | kebab | camel | pascal | snake => exact List.forall_mem_nil _

end KeyCase

/-! ### The empty name -/

namespace Registry

variable {keyCase : KeyCase} {entries : List (String × ρ)}

/-- The empty name finds the last entry with an empty key. -/
theorem get?_ofEntries_empty :
    (ofEntries keyCase entries).get? "" = latest? keyCase entries "" := by
  rw [get?_ofEntries, KeyCase.apply_empty, Option.or_self]

/-- There is such an entry unless the policy leaves something of every name. -/
theorem latest?_empty_eq_none_iff :
    latest? keyCase entries "" = none ↔ ∀ entry ∈ entries, ¬keyCase.LeavesNothing entry.1 := by
  rw [← Option.not_isSome_iff_eq_none, latest?_isSome_iff]
  simp only [KeyCase.apply_eq_empty_iff, not_exists, not_and]

/-- The empty name resolves to the last entry with an empty key, and to nothing if there is none,
whatever the settings. -/
theorem resolve_empty (settings : Settings) :
    (resolve "" (ofEntries keyCase entries) settings).renderable
      = ((latest? keyCase entries "").map Renderable.component).getD .null := by
  cases found : latest? keyCase entries "" with
  | none =>
    exact resolve_null_iff.mpr ⟨by rw [get?_ofEntries_empty, found], fun h => h.1 rfl⟩
  | some c => exact resolve_component_iff.mpr (by rw [get?_ofEntries_empty, found])

end Registry

/-- An element is loaded with the empty name exactly when it has no usable component: none at all,
or one that is not a string, or the empty string. -/
theorem component_ofFields_eq_empty_iff (fields : Fields Json) :
    (Element.ofFields fields).component = "" ↔
      ∀ name, fields.get? "component" = some (.string name) → name = "" := by
  change Element.componentOf fields = "" ↔ _
  rw [Element.componentOf]
  cases fields.get? "component" with
  | none => simp
  | some value => cases value <;> simp [Json.string?]

/-! ### Documents -/

/-- Of the account of a visit without a name, what says that it renders nothing is a report of the
empty name, without advice, if it does render nothing. -/
theorem filter_account_of_nameless {limit : Nat} {v : Visit ρ} (nameless : v.element.component = "")
    (within : v.depth ≤ limit) :
    (v.account limit).filter (·.anomaly.isUnrendered)
      = if v.element.renderable.isNull then [⟨"", v.path, .unavailable false false⟩] else [] := by
  have shallow : v.depth ≠ limit + 1 := by omega
  rw [Visit.filter_account_of_drops fun d h => h, if_neg shallow]
  unfold Visit.diagnostic
  rw [nameless]
  split <;> rfl

/-- **Elements without a usable component** render nothing exactly when no entry of the registry has
a name of which the case policy leaves nothing; otherwise they render with the last such entry.
Wherever one that renders nothing stands up to the greatest depth, one report of the empty name says
so, without advice. -/
theorem nameless_null_iff (keyCase : KeyCase) (entries : List (String × ρ)) (settings : Settings)
    (roots : List Node) :
    let r : Renderer ρ :=
      { registry := .ofEntries keyCase entries, settings, hooks := .none, roots }
    (∀ fields : Fields Json, (Element.ofFields fields).component = "" ↔
      ∀ name, fields.get? "component" = some (.string name) → name = "") ∧
    (∀ v ∈ r.visits, v.node.component = "" → v.depth ≤ settings.maxDepth →
      (v.element.renderable = .null ↔ ∀ entry ∈ entries, ¬keyCase.LeavesNothing entry.1) ∧
      v.element.renderable
        = ((Registry.latest? keyCase entries "").map Renderable.component).getD .null ∧
      (v.account settings.maxDepth).filter (·.anomaly.isUnrendered)
        = if v.element.renderable.isNull then [⟨"", v.path, .unavailable false false⟩] else []) ∧
    (settings.displayErrorMessage = true →
      r.diagnostics = r.visits.flatMap (·.account settings.maxDepth)) := by
  intro r
  refine ⟨component_ofFields_eq_empty_iff, fun v hv nameless within => ?_, fun messages => ?_⟩
  · have rendered := rendered_of_mem_visits r rfl v hv
    have renderable : v.element.renderable
        = ((Registry.latest? keyCase entries "").map Renderable.component).getD .null := by
      rw [rendered.renderable rfl within, nameless]
      exact Registry.resolve_empty settings
    have component := (rendered.component_key rfl).1.trans nameless
    refine ⟨?_, renderable, filter_account_of_nameless component within⟩
    rw [renderable, ← Registry.latest?_empty_eq_none_iff]
    cases Registry.latest? keyCase entries "" <;> simp
  · exact (accounted_render r rfl messages).diagnostics_eq

/-- An element inside another one, neither with a usable component. Nothing is left of the name
`--` in kebab case, but something is of `a-`. -/
theorem nameless_null_iff_nested :
    let roots := Node.rootsOfJson (.object
      [("component", .number (.integer 7)), ("key", .string "k"),
        ("children", .array [.object [("component", .string ""), ("key", .string "l")]])])
    let r : Renderer String :=
      { registry := .ofEntries .kebab [("a-", "a")], settings := {}, hooks := .none, roots }
    (∀ v ∈ r.visits, v.node.component = "" ∧ v.depth ≤ 256) ∧
      ¬KeyCase.kebab.LeavesNothing "a-" ∧ KeyCase.kebab.LeavesNothing "--" ∧
      (∀ v ∈ r.visits, v.element.renderable = .null) ∧
      r.diagnostics
        = [⟨"", "0", .unavailable false false⟩, ⟨"", "0.0", .unavailable false false⟩] := by
  intro roots r
  have nameless : ∀ v ∈ r.visits, v.node.component = "" ∧ v.depth ≤ 256 := by decide
  have something : ∀ entry ∈ [("a-", "a")], ¬KeyCase.kebab.LeavesNothing entry.1 := by decide
  refine ⟨nameless, by decide, by decide, fun v hv => ?_, by decide⟩
  obtain ⟨-, visits, -⟩ := nameless_null_iff .kebab [("a-", "a")] {} roots
  exact (visits v hv (nameless v hv).1 (nameless v hv).2).1.mpr something

/-- An element without a component renders with what is registered under the empty name, and in
kebab case with what is registered under a name of marks; neither is reported. -/
theorem nameless_registered :
    let r (keyCase : KeyCase) (name : String) : Renderer String :=
      { registry := .ofEntries keyCase [(name, "c")]
        settings := {}
        hooks := .none
        roots := Node.rootsOfJson (.object [("key", .string "k")]) }
    ((r .preserve "").tree.places.map (·.element.renderable) = [.component "c"] ∧
        (r .preserve "").diagnostics = []) ∧
      ((r .kebab "--").tree.places.map (·.element.renderable) = [.component "c"] ∧
        (r .kebab "--").diagnostics = []) := by
  decide

end ComponentTree
