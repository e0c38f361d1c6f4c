import ComponentTree.Proofs.Registry.Lookup
import Mathlib.Data.List.Dedup
import Mathlib.Data.String.Basic

/-!
Building a registry out of a list of entries. The last entry of each key is kept, the keys come out
in their order, and a collision is reported wherever the spelling of a key changes.

* `Fields.sorted_ofList`, `Fields.mem_names_ofList` — the names of fields that were set one after
  another are those of the list, strictly increasing.
* `Registry.respelling?` — what there is to report of a name after the names before it;
  `collisions_eq` — the collisions are these, name by name.
* `Registry.respellings` — the collisions of one key alone, which see nothing of the names in
  between (`filter_collisions`); `respellings_eq_nil_iff` and `name_of_getLast?_respellings` say when
  there are none, and what the last one names.
* `ofEntries_refines_latest?` — all of it for a registry.
-/

namespace ComponentTree

variable {ρ : Type}

/-! ### Names in order -/

namespace Fields

variable {α : Type} {name : String} {value : α} {fields : Fields α}

theorem mem_names_insert {other : String} :
    other ∈ (fields.insert name value).names ↔ other = name ∨ other ∈ fields.names := by
  induction fields with
  | nil => simp [insert, names]
  | cons field rest ih =>
    obtain ⟨first, old⟩ := field
    simp only [names] at ih
    unfold insert
    split
    · simp [names]
    · split
      · next same => simp [names, same]
      · simp only [names, List.map_cons, List.mem_cons, ih]
        exact or_left_comm

/-- Setting a name keeps the names strictly increasing. -/
theorem sorted_insert (sorted : fields.Sorted) : (fields.insert name value).Sorted := by
  induction fields with
  | nil => exact List.pairwise_singleton _ _
  | cons field rest ih =>
    obtain ⟨first, old⟩ := field
    obtain ⟨above, sortedRest⟩ := List.pairwise_cons.mp sorted
    unfold insert
    split
    · next before =>
      refine List.pairwise_cons.mpr ⟨fun other member => ?_, sorted⟩
      rcases List.mem_cons.mp member with rfl | member
      · exact before
      · exact lt_trans before (above other member)
    · next notBefore =>
      split
      · next same =>
        subst same
        exact List.pairwise_cons.mpr ⟨above, sortedRest⟩
      · next different =>
        refine List.pairwise_cons.mpr ⟨fun other member => ?_, ih sortedRest⟩
        have found : other.1 ∈ (insert name value rest).names := List.mem_map_of_mem member
        rcases mem_names_insert.mp found with here | later
        · rw [here]
          exact lt_of_le_of_ne (not_lt.mp notBefore) (Ne.symm different)
        · obtain ⟨field, member, same⟩ := List.mem_map.mp later
          exact same ▸ above field member

theorem ofList_append_singleton (pairs : List (String × α)) (pair : String × α) :
    ofList (pairs ++ [pair]) = (ofList pairs).insert pair.1 pair.2 := by
  simp [ofList]

theorem mem_names_ofList {pairs : List (String × α)} :
    name ∈ (ofList pairs).names ↔ ∃ pair ∈ pairs, pair.1 = name := by
  induction pairs using List.reverseRecOn with
  | nil => simp [ofList, names]
  | append_singleton pairs pair ih =>
    rw [ofList_append_singleton, mem_names_insert, ih]
    constructor
    · rintro (rfl | ⟨other, member, same⟩)
      · exact ⟨pair, by simp, rfl⟩
      · exact ⟨other, by simp [member], same⟩
    · rintro ⟨other, member, same⟩
      rcases List.mem_append.mp member with member | member
      · exact .inr ⟨other, member, same⟩
      · rw [List.mem_singleton] at member
        exact .inl (same ▸ member ▸ rfl)

/-- Whatever was set in whatever order, the names are strictly increasing. -/
theorem sorted_ofList (pairs : List (String × α)) : (ofList pairs).Sorted := by
  induction pairs using List.reverseRecOn with
  | nil => exact .nil
  | append_singleton pairs pair ih =>
    rw [ofList_append_singleton]
    exact sorted_insert ih

end Fields

namespace Registry

variable {keyCase : KeyCase} {entries : List (String × ρ)}

/-- The names of a registry are the keys of its entries. -/
theorem mem_names_ofEntries {key : String} :
    key ∈ (ofEntries keyCase entries).names ↔ ∃ entry ∈ entries, keyCase.apply entry.1 = key := by
  simp only [names, ofEntries, Fields.mem_names_ofList, List.mem_map]
  constructor
  · rintro ⟨_, ⟨entry, member, rfl⟩, same⟩
    exact ⟨entry, member, same⟩
  · rintro ⟨entry, member, same⟩
    exact ⟨_, ⟨entry, member, rfl⟩, same⟩

theorem pairwise_names_ofEntries : (ofEntries keyCase entries).names.Pairwise (· < ·) :=
  List.pairwise_map.mpr (Fields.sorted_ofList _)

/-- There are as many names as there are different keys. -/
theorem size_ofEntries :
    (ofEntries keyCase entries).size = (entries.map (keyCase.apply ·.1)).dedup.length := by
  have distinct : (ofEntries keyCase entries).names.Nodup :=
    pairwise_names_ofEntries.imp fun h => ne_of_lt h
  have same : (ofEntries keyCase entries).names.Perm (entries.map (keyCase.apply ·.1)).dedup := by
    refine (List.perm_ext_iff_of_nodup distinct (List.nodup_dedup _)).mpr fun key => ?_
    rw [mem_names_ofEntries, List.mem_dedup, List.mem_map]
  calc (ofEntries keyCase entries).size
    _ = (ofEntries keyCase entries).names.length := (List.length_map _).symm
    _ = (entries.map (keyCase.apply ·.1)).dedup.length := same.length_eq

/-! ### Collisions, name by name -/

/-- What there is to report of a name after the names before it: the nearest of them that has its
key, if it is spelled differently. -/
def respelling? (keyCase : KeyCase) (before : List String) (name : String) : Option Collision :=
  ((before.filter (keyCase.apply · = keyCase.apply name)).getLast?.filter (· ≠ name)).map
    fun previous => ⟨previous, name, keyCase.apply name⟩

/-- One more name, given the latest spelling of its key. -/
theorem collisionsAfter_cons {before : List String} {spelled : Fields String}
    (latest : ∀ key, spelled.get? key = (before.filter (keyCase.apply · = key)).getLast?)
    (name : String) (rest : List String) :
    collisionsAfter keyCase spelled (name :: rest)
      = (respelling? keyCase before name).toList
        ++ collisionsAfter keyCase (spelled.insert (keyCase.apply name) name) rest := by
  rw [collisionsAfter, respelling?, ← latest]
  cases spelled.get? (keyCase.apply name) with
  | none => rfl
  | some previous => by_cases same : previous = name <;> simp [same, Option.filter]

/-- Names after others. The induction is on the names that are left; the spellings that are passed
on are the latest ones of the names before. -/
theorem collisionsAfter_eq {before : List String} {spelled : Fields String}
    (latest : ∀ key, spelled.get? key = (before.filter (keyCase.apply · = key)).getLast?)
    (names : List String) :
    collisionsAfter keyCase spelled names
      = (names.mapIdx fun i name =>
          (respelling? keyCase (before ++ names.take i) name).toList).flatten := by
  induction names generalizing before spelled with
  | nil => rfl
  | cons name rest ih =>
    have later : ∀ key, (spelled.insert (keyCase.apply name) name).get? key
        = ((before ++ [name]).filter (keyCase.apply · = key)).getLast? := by
      intro key
      rw [List.filter_append]
      by_cases same : keyCase.apply name = key
      · subst same
        simp
      · rw [Fields.get?_insert_of_ne (Ne.symm same), latest]
        simp [same]
    rw [collisionsAfter_cons latest, ih later, List.mapIdx_cons, List.flatten_cons,
      List.take_zero, List.append_nil]
    simp only [List.take_succ_cons, List.append_assoc, List.singleton_append]

/-- **The collisions are reported name by name**, each as soon as it is met. -/
theorem collisions_eq (keyCase : KeyCase) (names : List String) :
    collisions keyCase names
      = (names.mapIdx fun i name =>
          (respelling? keyCase (names.take i) name).toList).flatten := by
  have latest : ∀ key, Fields.get? ([] : Fields String) key
      = (([] : List String).filter (keyCase.apply · = key)).getLast? := fun _ => rfl
  exact collisionsAfter_eq latest names

/-! ### Collisions of one key -/

/-- The collisions of a list of names that share a key, after the given one. -/
def respellings (key : String) : Option String → List String → List Collision
  | _, [] => []
  | none, name :: rest => respellings key (some name) rest
  | some previous, name :: rest =>
    (if previous = name then [] else [⟨previous, name, key⟩]) ++ respellings key (some name) rest

variable {key : String}

theorem filter_collisionsAfter (spelled : Fields String) (names : List String) :
    (collisionsAfter keyCase spelled names).filter (·.key = key)
      = respellings key (spelled.get? key) (names.filter (keyCase.apply · = key)) := by
  induction names generalizing spelled with
  | nil => cases spelled.get? key <;> rfl
  | cons name rest ih =>
    rw [collisionsAfter, List.filter_append, ih]
    by_cases same : keyCase.apply name = key
    · subst same
      rw [Fields.get?_insert_self, List.filter_cons_of_pos (by simp)]
      cases spelled.get? (keyCase.apply name) with
      | none => rfl
      | some previous => by_cases h : previous = name <;> simp [respellings, h]
    · rw [Fields.get?_insert_of_ne (Ne.symm same), List.filter_cons_of_neg (by simpa using same)]
      cases spelled.get? (keyCase.apply name) with
      | none => rfl
      | some previous => by_cases h : previous = name <;> simp [h, same]

/-- **The collisions of one key** depend on the names with that key alone. -/
theorem filter_collisions (names : List String) :
    (collisions keyCase names).filter (·.key = key)
      = respellings key none (names.filter (keyCase.apply · = key)) :=
  filter_collisionsAfter [] names

theorem respellings_some_eq_nil_iff {previous : String} {names : List String} :
    respellings key (some previous) names = [] ↔ ∀ name ∈ names, name = previous := by
  induction names generalizing previous with
  | nil => simp [respellings]
  | cons name rest ih =>
    rw [respellings, List.append_eq_nil_iff, ih, List.forall_mem_cons]
    constructor
    · rintro ⟨here, later⟩
      have same : previous = name := by by_contra different; simp [different] at here
      exact ⟨same.symm, same ▸ later⟩
    · rintro ⟨rfl, later⟩
      exact ⟨if_pos rfl, later⟩

/-- A key has no collisions exactly when it has one spelling. -/
theorem respellings_eq_nil_iff {names : List String} :
    respellings key none names = [] ↔ ∀ a ∈ names, ∀ b ∈ names, a = b := by
  cases names with
  | nil => simp [respellings]
  | cons name rest =>
    rw [respellings, respellings_some_eq_nil_iff]
    constructor
    · intro same a ha b hb
      have eq : ∀ c ∈ name :: rest, c = name := List.forall_mem_cons.mpr ⟨rfl, same⟩
      rw [eq a ha, eq b hb]
    · intro same other member
      exact same other (List.mem_cons_of_mem _ member) name List.mem_cons_self

/-- Without a collision after it, a spelling stays the latest. -/
theorem name_of_getLast?_respellings {previous : Option String} {names : List String}
    {c : Collision} (last : (respellings key previous names).getLast? = some c) :
    names.getLast? = some c.name := by
  induction names generalizing previous with
  | nil => cases previous <;> simp [respellings] at last
  | cons name rest ih =>
    cases previous with
    | none => rw [List.getLast?_cons, ih last, Option.getD_some]
    | some previous =>
      rw [respellings, List.getLast?_append] at last
      cases later : (respellings key (some name) rest).getLast? with
      | some c' =>
        rw [later, Option.some_or] at last
        obtain rfl := Option.some.inj last
        rw [List.getLast?_cons, ih later, Option.getD_some]
      | none =>
        -- No respelling follows, so what is left is spelled as here.
        have same := respellings_some_eq_nil_iff.mp (List.getLast?_eq_none_iff.mp later)
        rw [later, Option.none_or] at last
        have here : c.name = name := by
          by_cases h : previous = name
          · simp [h] at last
          · simp only [h, if_false, List.getLast?_singleton, Option.some.injEq] at last
            rw [← last]
        rw [here, List.getLast?_cons]
        cases hrest : rest.getLast? with
        | none => rfl
        | some other => rw [Option.getD_some, same other (List.mem_of_getLast? hrest)]

/-- Some collision is reported exactly when two different names share a key. -/
theorem collisions_ne_nil_iff {names : List String} :
    collisions keyCase names ≠ [] ↔
      ∃ a ∈ names, ∃ b ∈ names, a ≠ b ∧ keyCase.apply a = keyCase.apply b := by
  constructor
  · intro some
    obtain ⟨c, member⟩ := List.exists_mem_of_ne_nil _ some
    have here : (collisions keyCase names).filter (·.key = c.key) ≠ [] :=
      List.ne_nil_of_mem (List.mem_filter.mpr ⟨member, by simp⟩)
    rw [filter_collisions, ne_eq, respellings_eq_nil_iff] at here
    push Not at here
    obtain ⟨a, ha, b, hb, different⟩ := here
    simp only [List.mem_filter, decide_eq_true_eq] at ha hb
    exact ⟨a, ha.1, b, hb.1, different, ha.2.trans hb.2.symm⟩
  · rintro ⟨a, ha, b, hb, different, same⟩ none
    have unreported : respellings (keyCase.apply b) .none
        (names.filter (keyCase.apply · = keyCase.apply b)) = [] := by
      rw [← filter_collisions, none, List.filter_nil]
    exact different (respellings_eq_nil_iff.mp unreported a
      (List.mem_filter.mpr ⟨ha, by simpa using same⟩) b (List.mem_filter.mpr ⟨hb, by simp⟩))

/-- The last collision of a key names the spelling of the entry that is kept under it. -/
theorem exists_of_getLast?_collisions {c : Collision}
    (last : ((collisions keyCase (entries.map (·.1))).filter (·.key = key)).getLast? = some c) :
    ∃ component,
      (entries.filter (keyCase.apply ·.1 = key)).getLast? = some (c.name, component) ∧
        (ofEntries keyCase entries).entries.get? key = some component := by
  rw [filter_collisions, List.filter_map] at last
  have kept := name_of_getLast?_respellings last
  rw [List.getLast?_map, Option.map_eq_some_iff] at kept
  obtain ⟨⟨name, component⟩, entry, rfl⟩ := kept
  exact ⟨component, entry, by rw [get?_entries_ofEntries, latest?]; exact congrArg _ entry⟩

/-! ### Building a registry -/

/-- **The last entry of each key is kept.** A lookup finds the last entry whose key is the name as
it is written, and failing that, if the policy changes names, the last one with the key of the name;
so every registered spelling is contained. The names are the different keys, strictly increasing.
The collisions are those of each name with the nearest earlier one that has its key, in order; there
are some exactly when two different names share a key, and the last one of a key names the spelling
whose component is kept. -/
theorem ofEntries_refines_latest? (keyCase : KeyCase) (entries : List (String × ρ)) :
    let r := ofEntries keyCase entries
    let spellings := entries.map (·.1)
    (∀ q, r.get? q = (latest? keyCase entries q).or
      (if keyCase.isActive then latest? keyCase entries (keyCase.apply q) else none)) ∧
    (∀ entry ∈ entries, r.contains entry.1 = true) ∧
    (r.names.Pairwise (· < ·) ∧
      (∀ key, key ∈ r.names ↔ ∃ entry ∈ entries, keyCase.apply entry.1 = key) ∧
      r.size = r.names.length ∧ r.size = (entries.map (keyCase.apply ·.1)).dedup.length) ∧
    collisions keyCase spellings
      = (spellings.mapIdx fun i name =>
          (respelling? keyCase (spellings.take i) name).toList).flatten ∧
    (collisions keyCase spellings ≠ [] ↔
      ∃ a ∈ spellings, ∃ b ∈ spellings, a ≠ b ∧ keyCase.apply a = keyCase.apply b) ∧
    ∀ key c, ((collisions keyCase spellings).filter (·.key = key)).getLast? = some c →
      ∃ component,
        (entries.filter (keyCase.apply ·.1 = key)).getLast? = some (c.name, component) ∧
          r.entries.get? key = some component := by
  intro r spellings
  have lookup : ∀ q, r.get? q = (latest? keyCase entries q).or
      (if keyCase.isActive then latest? keyCase entries (keyCase.apply q) else none) := by
    intro q
    rw [get?_ofEntries]
    by_cases preserve : keyCase = .preserve
    · subst preserve
      rw [KeyCase.apply_preserve, Option.or_self]
      exact Option.or_none.symm
    · rw [if_pos (by simpa [KeyCase.isActive] using preserve)]
  refine ⟨lookup, fun entry member => contains_ofEntries member, ?_, collisions_eq _ _,
    collisions_ne_nil_iff, fun key c => exists_of_getLast?_collisions⟩
  exact ⟨pairwise_names_ofEntries, fun key => mem_names_ofEntries, (List.length_map _).symm,
    size_ofEntries⟩

/-- A key that is spelled one way, then another, then the first way again, with another key in
between. -/
theorem ofEntries_refines_latest?_alternating :
    let entries := [("my-card", 1), ("MyCard", 2), ("x", 3), ("my-card", 4)]
    let r := ofEntries .kebab entries
    let reports := collisions .kebab (entries.map (·.1))
    r.names = ["my-card", "x"] ∧ r.contains "MyCard" = true ∧
      reports = [⟨"my-card", "MyCard", "my-card"⟩, ⟨"MyCard", "my-card", "my-card"⟩] ∧
      (entries.filter (KeyCase.kebab.apply ·.1 = "my-card")).getLast? = some ("my-card", 4) ∧
      r.entries.get? "my-card" = some 4 := by
  intro entries r reports
  obtain ⟨-, contained, -, -, -, kept⟩ := ofEntries_refines_latest? .kebab entries
  have last : (reports.filter (·.key = "my-card")).getLast?
      = some ⟨"MyCard", "my-card", "my-card"⟩ := by decide
  obtain ⟨component, entry, found⟩ := kept "my-card" _ last
  have four : (entries.filter (KeyCase.kebab.apply ·.1 = "my-card")).getLast?
      = some ("my-card", 4) := by decide
  obtain rfl : component = 4 := by simpa using congrArg (Option.map (·.2)) (entry.symm.trans four)
  exact ⟨by decide, contained ("MyCard", 2) (by decide), by decide, four, found⟩

end Registry

end ComponentTree
