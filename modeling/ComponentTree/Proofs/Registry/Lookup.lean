import ComponentTree.Proofs.Policy.Enforcement
import ComponentTree.Proofs.Registry.Spelling
import Mathlib.Data.List.Induction

/-!
Finding the component of a registered name. The registry keeps keys only; a lookup tries the name
as it is written among them before it tries the key of the name. The two probes agree unless the
spelling of the name happens to be the key of another one.

* `Registry.latest?` — the component of the last entry with a given key.
* `get?_ofEntries` — what a lookup finds, in terms of the entries that the registry was built of.
* `resolve_latest_iff` — exactly when a name resolves to the last entry with its key, whatever the
  settings; `get?_shadowed` has two registered names that resolve to the component of another.
* `get?_ofEntries_of_settled` — entries whose keys are keys of themselves leave no room for that,
  and `get?_ofEntries_of_ascii` names a case where they are.
* `get?_respelled` — so in kebab and snake case ASCII names are found in any spelling.
-/

namespace ComponentTree

variable {ρ : Type}

/-! ### Entries and keys -/

/-- Of the pairs with one name the last counts. -/
theorem Fields.get?_ofList {α : Type} (pairs : List (String × α)) (name : String) :
    (Fields.ofList pairs).get? name = (pairs.filter (·.1 = name)).getLast?.map (·.2) := by
  induction pairs using List.reverseRecOn with
  | nil => rfl
  | append_singleton pairs pair ih =>
    have step : Fields.ofList (pairs ++ [pair]) = (Fields.ofList pairs).insert pair.1 pair.2 := by
      simp [Fields.ofList]
    rw [step, List.filter_append]
    by_cases h : pair.1 = name
    · subst h
      simp
    · rw [Fields.get?_insert_of_ne (Ne.symm h), ih]
      simp [h]

namespace Registry

/-- The component of the last entry whose name has the key `key`. -/
def latest? (keyCase : KeyCase) (entries : List (String × ρ)) (key : String) : Option ρ :=
  (entries.filter fun entry => keyCase.apply entry.1 = key).getLast?.map (·.2)

variable {keyCase : KeyCase} {entries : List (String × ρ)} {name key : String}

theorem latest?_isSome_iff :
    (latest? keyCase entries key).isSome ↔ ∃ entry ∈ entries, keyCase.apply entry.1 = key := by
  simp [latest?]

/-- The keys of a registry hold the last entry of each key. -/
theorem get?_entries_ofEntries :
    (ofEntries keyCase entries).entries.get? key = latest? keyCase entries key := by
  simp only [ofEntries, Fields.get?_ofList, latest?, List.filter_map, List.getLast?_map,
    Option.map_map]
  rfl

/-- A lookup finds the last entry whose key is the name as it is written, and only where there is
none the last entry with the key of the name. -/
theorem get?_ofEntries :
    (ofEntries keyCase entries).get? name
      = (latest? keyCase entries name).or (latest? keyCase entries (keyCase.apply name)) := by
  rw [get?, get?_entries_ofEntries, get?_entries_ofEntries]
  by_cases h : keyCase = .preserve
  · subst h
    rw [KeyCase.apply_preserve, Option.or_self]
    cases latest? .preserve entries name <;> simp [ofEntries, KeyCase.isActive]
  · cases latest? keyCase entries name <;> simp [ofEntries, KeyCase.isActive, h]

/-- A registered name has a component, be it its own or not. -/
theorem contains_ofEntries {entry : String × ρ} (h : entry ∈ entries) :
    (ofEntries keyCase entries).contains entry.1 = true := by
  rw [contains, get?_ofEntries, Option.isSome_or, latest?_isSome_iff.mpr ⟨entry, h, rfl⟩,
    Bool.or_true]

/-! ### When a name finds its own entry -/

/-- A lookup finds the last entry with the key of the name exactly when entries whose key is the
name as it is written, if there are any, do not say otherwise. -/
theorem get?_ofEntries_eq_latest?_iff :
    (ofEntries keyCase entries).get? name = latest? keyCase entries (keyCase.apply name) ↔
      ∀ entry ∈ entries, keyCase.apply entry.1 = name →
        latest? keyCase entries name = latest? keyCase entries (keyCase.apply name) := by
  rw [get?_ofEntries]
  cases h : latest? keyCase entries name with
  | none =>
    refine ⟨fun _ entry member same => ?_, fun _ => Option.none_or⟩
    have present := latest?_isSome_iff.mpr ⟨entry, member, same⟩
    simp [h] at present
  | some c =>
    obtain ⟨entry, member, same⟩ := latest?_isSome_iff.mp (Option.isSome_of_eq_some h)
    rw [Option.some_or]
    exact ⟨fun found _ _ _ => found, fun agree => agree entry member same⟩

/-- Whatever the settings, a name resolves to the last entry with its key, exactly when entries
whose key is the name as it is written do not say otherwise. -/
theorem resolve_latest_iff (keyCase : KeyCase) (entries : List (String × ρ)) (name : String) :
    (∀ (settings : Settings) (c : ρ),
        (resolve name (ofEntries keyCase entries) settings).renderable = .component c ↔
          latest? keyCase entries (keyCase.apply name) = some c) ↔
      ∀ entry ∈ entries, keyCase.apply entry.1 = name →
        latest? keyCase entries name = latest? keyCase entries (keyCase.apply name) := by
  simp only [resolve_component_iff, ← get?_ofEntries_eq_latest?_iff]
  exact ⟨fun h => Option.ext (h {}), fun h _ c => by rw [h]⟩

/-- Two registered names each. The second one resolves to the component of the first, whose key is
spelled like it, although it has a key of its own: words of one letter melt when they are run
together. -/
theorem get?_shadowed :
    ((ofEntries .pascal [("a-b", 1), ("AB", 2)]).get? "AB" = some 1 ∧
      latest? .pascal [("a-b", 1), ("AB", 2)] (KeyCase.pascal.apply "AB") = some 2) ∧
    ((ofEntries .camel [("a-b-c", 1), ("aBC", 2)]).get? "aBC" = some 1 ∧
      latest? .camel [("a-b-c", 1), ("aBC", 2)] (KeyCase.camel.apply "aBC") = some 2) := by
  decide

/-- Where the keys of the entries are keys of themselves, every name finds the last entry with its
key. -/
theorem get?_ofEntries_of_settled
    (settled : ∀ entry ∈ entries,
      keyCase.apply (keyCase.apply entry.1) = keyCase.apply entry.1) :
    (ofEntries keyCase entries).get? name = latest? keyCase entries (keyCase.apply name) :=
  get?_ofEntries_eq_latest?_iff.mpr fun entry member same => by
    subst same
    rw [settled entry member]

/-- Unless the policy runs words together, registering ASCII names is safe: every name, registered
or not, finds the last entry with its key. -/
theorem get?_ofEntries_of_ascii (camel : keyCase ≠ .camel) (pascal : keyCase ≠ .pascal)
    (ascii : ∀ entry ∈ entries, ∀ c ∈ entry.1.toList, c.toNat < 128) :
    (ofEntries keyCase entries).get? name = latest? keyCase entries (keyCase.apply name) :=
  get?_ofEntries_of_settled fun entry member =>
    KeyCase.apply_apply camel pascal (ascii entry member)

/-- **Spelling does not matter in kebab and snake case.** The key of an ASCII name is a key of
itself. So with ASCII names registered a lookup finds exactly the last entry with the key of the
name, and nothing if there is none; what is found under the name as it is written is that entry,
too. Any two names with one key find the same. -/
theorem get?_respelled {keyCase : KeyCase} (joined : keyCase = .kebab ∨ keyCase = .snake)
    (entries : List (String × ρ))
    (ascii : ∀ entry ∈ entries, ∀ c ∈ entry.1.toList, c.toNat < 128) :
    (∀ name : String, (∀ c ∈ name.toList, c.toNat < 128) →
      keyCase.apply (keyCase.apply name) = keyCase.apply name) ∧
    (∀ q, (ofEntries keyCase entries).get? q = latest? keyCase entries (keyCase.apply q) ∧
      ((ofEntries keyCase entries).get? q = none ↔
        ∀ entry ∈ entries, keyCase.apply entry.1 ≠ keyCase.apply q) ∧
      ∀ c, (ofEntries keyCase entries).entries.get? q = some c →
        latest? keyCase entries (keyCase.apply q) = some c) ∧
    ∀ q q', keyCase.apply q = keyCase.apply q' →
      (ofEntries keyCase entries).get? q = (ofEntries keyCase entries).get? q' := by
  have camel : keyCase ≠ .camel := by rintro rfl; simp at joined
  have pascal : keyCase ≠ .pascal := by rintro rfl; simp at joined
  have found : ∀ q, (ofEntries keyCase entries).get? q
      = latest? keyCase entries (keyCase.apply q) :=
    fun q => get?_ofEntries_of_ascii camel pascal ascii
  refine ⟨fun name => KeyCase.apply_apply camel pascal, fun q => ⟨found q, ?_, ?_⟩, ?_⟩
  · rw [found, ← Option.not_isSome_iff_eq_none, latest?_isSome_iff]
    simp only [not_exists, not_and, ne_eq]
  · intro c written
    rw [← found, get?, written]
  · intro q q' same
    rw [found, found, same]

/-- Two spellings of one key in snake case that are registered, a third one that is not, and the
spelling of another key. -/
theorem get?_respelled_acronym :
    let entries := [("HTMLElement", 1), ("other", 2), ("html_element", 3)]
    let r := ofEntries .snake entries
    (∀ entry ∈ entries, ∀ c ∈ entry.1.toList, c.toNat < 128) ∧
      KeyCase.snake.apply "html-Element" = "html_element" ∧
      r.get? "html-Element" = some 3 ∧ r.get? "HTMLElement" = r.get? "html-Element" ∧
      r.get? "html" = none := by
  intro entries r
  have all : (entries.all fun entry => entry.1.toList.all fun c => c.toNat < 128) = true := by
    decide
  have ascii : ∀ entry ∈ entries, ∀ c ∈ entry.1.toList, c.toNat < 128 := by
    simpa only [List.all_eq_true, decide_eq_true_eq] using all
  obtain ⟨-, lookup, alike⟩ := get?_respelled (.inr rfl) entries ascii
  exact ⟨ascii, by decide, (lookup "html-Element").1.trans (by decide),
    alike _ _ (by decide), (lookup "html").2.1.mpr (by decide)⟩

end Registry

end ComponentTree
