import ComponentTree.Options.Reader
import ComponentTree.Proofs.Options.Resolution
import Mathlib.Data.List.Forall2
import Mathlib.Data.List.Nodup

/-!
Options out of JSON values, and back. What a value gives is a list of options with their values,
whichever of its shapes it has; setting them one by one on the defaults is all that reading does.

* `OptionName.Takes` — the values that an option takes; `OptionName.canonical` — the one spelling
  of such a value; `Options.value` — what options hold, in that spelling.
* `exists_set_iff`, `value_set_self`, `value_set_of_ne` — setting one option; `exists_setAll_iff`,
  `follows_setAll` — setting a list of them.
* `Json.Gives` — the options that a value gives, by name or by place; `ofJson_eq_ok_iff` — reading
  a value, by what it gives.
* `ofJson_toJson` — options are read back from what they are written as.
* `options_accepted` — from a value to settings.
-/

namespace ComponentTree

/-! ### Names -/

/-- No name stands for two options. -/
theorem ofSpelling?_eq_some_iff {s : String} {option : OptionName} :
    OptionName.ofSpelling? s = some option ↔ s ∈ option.spellings := by
  constructor
  · intro found
    have spelled := List.find?_some (show OptionName.all.find? _ = some option from found)
    exact List.contains_iff_mem.mp spelled
  · intro h
    cases option <;>
      simp only [OptionName.spellings, List.mem_cons, List.not_mem_nil, or_false] at h <;>
      rcases h with rfl | rfl <;> decide

example : OptionName.all.flatMap OptionName.spellings =
    ["allowElements", "allowUnsecureElements", "allowUnsecureHtmlElement", "htmlElement",
      "allowUnsecureCustomElement", "customElement", "displayErrorMessage",
      "legacyPropsChildren", "componentKeyCase", "maxDepth"] := rfl

theorem ofName?_eq_some_iff {s : String} {case : KeyCase} :
    KeyCase.ofName? s = some case ↔ s = case.name := by
  constructor
  · intro found
    have named := List.find?_some (show KeyCase.all.find? _ = some case from found)
    exact (beq_iff_eq.mp named).symm
  · rintro rfl
    exact KeyCase.ofName?_name case

/-! ### Values -/

section Values

variable {value : Json}

theorem isNull_iff : value.isNull = true ↔ value = .null := by
  cases value <;> simp [Json.isNull]

theorem asBool_eq_ok_iff {b : Bool} : value.asBool = .ok b ↔ value = .bool b := by
  cases value <;> simp [Json.asBool]

theorem asUInt64_eq_ok_iff {n : UInt64} : value.asUInt64 = .ok n ↔ value = .ofInt n.toNat := by
  have bound : (n.toNat : Int) < twoPow 64 := by exact_mod_cast n.toNat_lt
  constructor
  · intro read
    unfold Json.asUInt64 at read
    split at read
    · next m =>
        split at read
        · next within =>
            obtain ⟨positive, below⟩ := within
            obtain rfl := Except.ok.inj read
            have small : m.toNat < 2 ^ 64 := by
              change m < ((2 ^ 64 : Nat) : Int) at below
              omega
            rw [UInt64.toNat_ofNat_of_lt' small, Int.toNat_of_nonneg positive]
            rfl
        · exact nomatch read
    · exact nomatch read
  · rintro rfl
    rw [Json.ofInt, Json.asUInt64, if_pos ⟨Int.natCast_nonneg _, bound⟩, Int.toNat_natCast,
      UInt64.ofNat_toNat]

theorem mapM_string?_eq_some_iff {items : List Json} {names : List String} :
    items.mapM Json.string? = some names ↔ items = names.map .string := by
  induction items generalizing names with
  | nil => cases names <;> simp
  | cons item rest ih =>
      have strings : ∀ name, item.string? = some name ↔ item = .string name := by
        cases item <;> simp [Json.string?]
      simp only [List.mapM_cons, Option.bind_eq_bind, Option.bind_eq_some_iff, Option.pure_def,
        Option.some_inj, strings, ih]
      constructor
      · rintro ⟨name, rfl, others, rfl, rfl⟩
        rfl
      · cases names with
        | nil => exact nofun
        | cons name others =>
            intro written
            obtain ⟨isName, areOthers⟩ := List.cons.inj written
            exact ⟨name, isName, others, areOthers, rfl⟩

theorem allowElements_ofJson_eq_ok_iff {allowed : AllowElements} :
    AllowElements.ofJson value = .ok allowed ↔ value = allowed.toJson := by
  constructor
  · intro read
    unfold AllowElements.ofJson at read
    split at read
    · obtain rfl := Except.ok.inj read
      rfl
    · split at read
      · next names found =>
          obtain rfl := Except.ok.inj read
          rw [mapM_string?_eq_some_iff.mp found]
          rfl
      · exact nomatch read
    · exact nomatch read
  · rintro rfl
    cases allowed with
    | all b => rfl
    | listed names =>
        rw [AllowElements.toJson, AllowElements.ofJson, mapM_string?_eq_some_iff.mpr rfl]

theorem keyCase_ofJson_eq_ok_iff {case : KeyCase} :
    KeyCase.ofJson value = .ok case ↔
      value = .string case.name ∨ value = .object [(case.name, .null)] := by
  constructor
  · intro read
    unfold KeyCase.ofJson at read
    split at read
    · split at read
      · next found =>
          obtain rfl := Except.ok.inj read
          rw [ofName?_eq_some_iff.mp found]
          exact .inl rfl
      · exact nomatch read
    · split at read
      · next found =>
          split at read
          · next null =>
              obtain rfl := Except.ok.inj read
              rw [ofName?_eq_some_iff.mp found, isNull_iff.mp null]
              exact .inr rfl
          · exact nomatch read
      · exact nomatch read
    · exact nomatch read
    · exact nomatch read
  · rintro (rfl | rfl)
    · rw [KeyCase.ofJson, KeyCase.ofName?_name]
    · rw [KeyCase.ofJson, KeyCase.ofName?_name]
      rfl

end Values

/-- The values that an option takes. -/
def OptionName.Takes : OptionName → Json → Prop
  | .allowUnsecureElements, value =>
    (∃ b, value = .bool b) ∨ ∃ names : List String, value = .array (names.map .string)
  | .componentKeyCase, value =>
    ∃ case : KeyCase, value = .string case.name ∨ value = .object [(case.name, .null)]
  | .maxDepth, value => ∃ n : Nat, n < UInt64.size ∧ value = .ofInt n
  | _, value => ∃ b, value = .bool b

/-- The value of an option in one spelling: a case policy that is given as an object is its name. -/
def OptionName.canonical : OptionName → Json → Json
  | .componentKeyCase, .object [(name, .null)] => .string name
  | _, value => value

/-- What options hold, as a value. -/
def Options.value (o : Options) : OptionName → Json
  | .allowUnsecureElements => o.allowUnsecureElements.toJson
  | .allowUnsecureHtmlElement => .bool o.allowUnsecureHtmlElement
  | .allowUnsecureCustomElement => .bool o.allowUnsecureCustomElement
  | .displayErrorMessage => .bool o.displayErrorMessage
  | .legacyPropsChildren => .bool o.legacyPropsChildren
  | .componentKeyCase => .string o.componentKeyCase.name
  | .maxDepth => .ofInt o.maxDepth.toNat

/-! ### One option -/

theorem allowElements_toJson_inj {a b : AllowElements} (h : a.toJson = b.toJson) : a = b :=
  Except.ok.inj ((allowElements_ofJson_eq_ok_iff.mpr rfl).symm.trans
    (allowElements_ofJson_eq_ok_iff.mpr h))

theorem keyCase_name_inj {a b : KeyCase} (h : a.name = b.name) : a = b :=
  Option.some.inj ((ofName?_eq_some_iff.mpr rfl).symm.trans (ofName?_eq_some_iff.mpr h))

/-- Options are what they hold. -/
theorem ext_value {o o' : Options} (h : o.value = o'.value) : o = o' := by
  have elements : o.allowUnsecureElements = o'.allowUnsecureElements :=
    allowElements_toJson_inj (congrFun h .allowUnsecureElements)
  have html : o.allowUnsecureHtmlElement = o'.allowUnsecureHtmlElement :=
    Json.bool.inj (congrFun h .allowUnsecureHtmlElement)
  have customElement : o.allowUnsecureCustomElement = o'.allowUnsecureCustomElement :=
    Json.bool.inj (congrFun h .allowUnsecureCustomElement)
  have messages : o.displayErrorMessage = o'.displayErrorMessage :=
    Json.bool.inj (congrFun h .displayErrorMessage)
  have legacy : o.legacyPropsChildren = o'.legacyPropsChildren :=
    Json.bool.inj (congrFun h .legacyPropsChildren)
  have keyCase : o.componentKeyCase = o'.componentKeyCase :=
    keyCase_name_inj (Json.string.inj (congrFun h .componentKeyCase))
  have depth : o.maxDepth = o'.maxDepth :=
    Except.ok.inj ((asUInt64_eq_ok_iff.mpr rfl).symm.trans
      (asUInt64_eq_ok_iff.mpr (congrFun h .maxDepth)))
  cases o
  cases o'
  exact Options.mk.injEq .. ▸ ⟨elements, html, customElement, messages, legacy, keyCase, depth⟩

section Set

variable {o o' : Options} {option : OptionName} {value : Json}

theorem map_eq_ok_iff {ε α β : Type} {x : Except ε α} {f : α → β} {y : β} :
    x.map f = .ok y ↔ ∃ a, x = .ok a ∧ f a = y := by
  cases x <;> simp [Except.map]

theorem exists_map_eq_ok_iff {ε α β : Type} {x : Except ε α} {f : α → β} :
    (∃ y, x.map f = .ok y) ↔ ∃ a, x = .ok a := by
  cases x <;> simp [Except.map]

/-- An option can be set to exactly the values that it takes. -/
theorem exists_set_iff : (∃ o', o.set option value = .ok o') ↔ option.Takes value := by
  cases option <;>
    simp only [Options.set, exists_map_eq_ok_iff, asBool_eq_ok_iff, asUInt64_eq_ok_iff,
      allowElements_ofJson_eq_ok_iff, keyCase_ofJson_eq_ok_iff, OptionName.Takes]
  case allowUnsecureElements =>
    constructor
    · rintro ⟨b | names, rfl⟩
      · exact .inl ⟨b, rfl⟩
      · exact .inr ⟨names, rfl⟩
    · rintro (⟨b, rfl⟩ | ⟨names, rfl⟩)
      · exact ⟨.all b, rfl⟩
      · exact ⟨.listed names, rfl⟩
  case maxDepth =>
    constructor
    · rintro ⟨n, rfl⟩
      exact ⟨n.toNat, n.toNat_lt, rfl⟩
    · rintro ⟨n, small, rfl⟩
      exact ⟨.ofNat n, by rw [UInt64.toNat_ofNat_of_lt' small]⟩

/-- Setting an option changes what is held for it. -/
theorem value_set_self (set : o.set option value = .ok o') :
    o'.value option = option.canonical value := by
  cases option <;> obtain ⟨v, read, rfl⟩ := map_eq_ok_iff.mp set
  case allowUnsecureElements => exact (allowElements_ofJson_eq_ok_iff.mp read).symm
  case componentKeyCase => rcases keyCase_ofJson_eq_ok_iff.mp read with rfl | rfl <;> rfl
  case maxDepth => exact (asUInt64_eq_ok_iff.mp read).symm
  all_goals exact (asBool_eq_ok_iff.mp read).symm

/-- Setting an option changes nothing else. -/
theorem value_set_of_ne {other : OptionName} (different : other ≠ option)
    (set : o.set option value = .ok o') : o'.value other = o.value other := by
  -- Whatever the option is, what is set is that field of the record alone.
  cases option <;> obtain ⟨v, -, rfl⟩ := map_eq_ok_iff.mp set <;> cases other <;>
    first | rfl | exact absurd rfl different

end Set

/-! ### A list of options -/

/-- Sets options one after another. -/
def Options.setAll (o : Options) (given : List (OptionName × Json)) :
    Except OptionShapeError Options :=
  given.foldlM (fun o choice => o.set choice.1 choice.2) o

theorem setAll_cons_eq_ok_iff {o o' : Options} {option : OptionName} {value : Json}
    {given : List (OptionName × Json)} :
    o.setAll ((option, value) :: given) = .ok o' ↔
      ∃ next, o.set option value = .ok next ∧ next.setAll given = .ok o' := by
  rw [Options.setAll, List.foldlM_cons]
  cases o.set option value with
  | error e => exact ⟨nofun, nofun⟩
  | ok next => exact ⟨fun h => ⟨next, rfl, h⟩, fun ⟨_, same, h⟩ => Except.ok.inj same ▸ h⟩

/-- Options can be set one after another exactly if each can be set to its value. -/
theorem exists_setAll_iff {o : Options} {given : List (OptionName × Json)} :
    (∃ o', o.setAll given = .ok o') ↔ ∀ choice ∈ given, choice.1.Takes choice.2 := by
  induction given generalizing o with
  | nil => exact ⟨fun _ => List.forall_mem_nil _, fun _ => ⟨o, rfl⟩⟩
  | cons choice rest ih =>
      obtain ⟨option, value⟩ := choice
      rw [List.forall_mem_cons, ← exists_set_iff (o := o)]
      constructor
      · rintro ⟨o', set⟩
        obtain ⟨next, first, later⟩ := setAll_cons_eq_ok_iff.mp set
        exact ⟨⟨next, first⟩, ih.mp ⟨o', later⟩⟩
      · rintro ⟨⟨next, first⟩, taken⟩
        obtain ⟨o', later⟩ := ih.mpr taken
        exact ⟨o', setAll_cons_eq_ok_iff.mpr ⟨next, first, later⟩⟩

/-- Options hold what a list gives: its values for those that are in it, and for the rest what other
options hold. -/
structure Options.Follows (o : Options) (given : List (OptionName × Json)) (other : Options) :
    Prop where
  /-- What is given counts. -/
  present : ∀ choice ∈ given, o.value choice.1 = choice.1.canonical choice.2
  /-- What is not given stays. -/
  absent : ∀ option, option ∉ given.map Prod.fst → o.value option = other.value option

/-- What is held after setting different options one after another. -/
theorem follows_setAll {o o' : Options} {given : List (OptionName × Json)}
    (once : (given.map Prod.fst).Nodup) (set : o.setAll given = .ok o') : o'.Follows given o := by
  induction given generalizing o with
  | nil =>
      obtain rfl := Except.ok.inj set
      exact ⟨List.forall_mem_nil _, fun _ _ => rfl⟩
  | cons choice rest ih =>
      obtain ⟨option, value⟩ := choice
      obtain ⟨next, first, later⟩ := setAll_cons_eq_ok_iff.mp set
      obtain ⟨fresh, once⟩ := List.nodup_cons.mp once
      have follows := ih once later
      refine ⟨List.forall_mem_cons.mpr ⟨?_, follows.present⟩, fun other missing => ?_⟩
      · rw [follows.absent option fresh, value_set_self first]
      · rw [List.map_cons, List.mem_cons, not_or] at missing
        rw [follows.absent other missing.2, value_set_of_ne missing.1 first]

/-- At most one choice of options follows a list. -/
theorem Options.Follows.unique {o o' other : Options} {given : List (OptionName × Json)}
    (follows : o.Follows given other) (follows' : o'.Follows given other) : o = o' := by
  refine ext_value (funext fun option => ?_)
  by_cases present : option ∈ given.map Prod.fst
  · obtain ⟨choice, mem, rfl⟩ := List.mem_map.mp present
    rw [follows.present choice mem, follows'.present choice mem]
  · rw [follows.absent option present, follows'.absent option present]

/-! ### What a value gives -/

/-- Each field goes by a name of its option and has its value. -/
abbrev Options.NamedBy (fields : Fields Json) (given : List (OptionName × Json)) : Prop :=
  List.Forall₂ (fun field choice => field.1 ∈ choice.1.spellings ∧ field.2 = choice.2) fields given

/-- A value gives these options with these values: `null` none; an object those that its names stand
for, none of them twice; an array the first ones in the order of declaration. -/
inductive Json.Gives : Json → List (OptionName × Json) → Prop where
  | null : Gives .null []
  | object {fields : Fields Json} {given : List (OptionName × Json)}
      (named : Options.NamedBy fields given) (once : (given.map Prod.fst).Nodup) :
      Gives (.object fields) given
  | array {items : List Json} (short : items.length ≤ OptionName.all.length) :
      Gives (.array items) (OptionName.all.zip items)

theorem setInOrder_eq_setAll (o : Options) (options : List OptionName) (items : List Json) :
    o.setInOrder options items = o.setAll (options.zip items) := by
  induction options generalizing o items with
  | nil => rfl
  | cons option more ih =>
      cases items with
      | nil => rfl
      | cons value rest =>
          rw [Options.setInOrder, List.zip_cons_cons, Options.setAll, List.foldlM_cons]
          exact congrArg _ (funext fun next => ih next rest)

/-- Fields that name different options set them one after another. -/
theorem setFields_eq_setAll {fields : Fields Json} {given : List (OptionName × Json)}
    (named : Options.NamedBy fields given) (once : (given.map Prod.fst).Nodup)
    {seen : List OptionName} (fresh : ∀ option ∈ given.map Prod.fst, option ∉ seen) (o : Options) :
    Options.setFields seen o fields = o.setAll given := by
  induction named generalizing seen o with
  | nil => rfl
  | @cons field choice fields given here later ih =>
      obtain ⟨name, value⟩ := field
      obtain ⟨option, value'⟩ := choice
      obtain ⟨spelled, rfl⟩ := here
      rw [List.map_cons] at once fresh
      obtain ⟨unrepeated, once⟩ := List.nodup_cons.mp once
      obtain ⟨unseen, fresh⟩ := List.forall_mem_cons.mp fresh
      rw [Options.setFields, ofSpelling?_eq_some_iff.mpr spelled]
      dsimp only
      rw [if_neg unseen, Options.setAll, List.foldlM_cons]
      refine congrArg _ (funext fun next => ih once ?_ next)
      intro other mem
      rw [List.mem_cons, not_or]
      refine ⟨?_, fresh other mem⟩
      rintro rfl
      exact unrepeated mem

/-- Fields that can be read name different options. -/
theorem exists_named {seen : List OptionName} {o o' : Options} {fields : Fields Json}
    (read : Options.setFields seen o fields = .ok o') :
    ∃ given, Options.NamedBy fields given ∧ (given.map Prod.fst).Nodup ∧
      ∀ option ∈ given.map Prod.fst, option ∉ seen := by
  induction fields generalizing seen o with
  | nil => exact ⟨[], .nil, List.nodup_nil, List.forall_mem_nil _⟩
  | cons field rest ih =>
      obtain ⟨name, value⟩ := field
      unfold Options.setFields at read
      split at read
      · exact nomatch read
      · next option found =>
          split at read
          · exact nomatch read
          · next unseen =>
              cases set : o.set option value with
              | error problem =>
                  rw [set] at read
                  exact nomatch read
              | ok next =>
                  rw [set] at read
                  obtain ⟨given, named, once, fresh⟩ := ih read
                  have unrepeated : option ∉ given.map Prod.fst :=
                    fun mem => fresh option mem List.mem_cons_self
                  refine ⟨(option, value) :: given,
                    .cons ⟨ofSpelling?_eq_some_iff.mp found, rfl⟩ named,
                    List.nodup_cons.mpr ⟨unrepeated, once⟩,
                    List.forall_mem_cons.mpr ⟨unseen, fun other mem again => ?_⟩⟩
                  exact fresh other mem (List.mem_cons_of_mem _ again)

/-! ### Reading and writing -/

theorem map_fst_zip_sublist {α β : Type} (l : List α) (l' : List β) :
    ((l.zip l').map Prod.fst).Sublist l := by
  induction l generalizing l' with
  | nil => exact .slnil
  | cons a l ih =>
      cases l' with
      | nil => exact List.nil_sublist _
      | cons b l' => exact (ih l').cons_cons a

theorem nodup_of_gives {v : Json} {given : List (OptionName × Json)} (gives : v.Gives given) :
    (given.map Prod.fst).Nodup := by
  cases gives with
  | null => exact List.nodup_nil
  | object named once => exact once
  | array short => exact List.Nodup.sublist (map_fst_zip_sublist ..) (by decide)

/-- Reading a value is setting what it gives. -/
theorem ofJson_of_gives {v : Json} {given : List (OptionName × Json)} (gives : v.Gives given) :
    Options.ofJson v = ({} : Options).setAll given := by
  cases gives with
  | null => rfl
  | object named once => exact setFields_eq_setAll named once (fun _ _ => List.not_mem_nil) _
  | @array items short =>
      simp only [Options.ofJson, setInOrder_eq_setAll, if_neg (Nat.not_lt.mpr short)]
      exact bind_pure _

/-- A value that can be read gives options. -/
theorem exists_gives {v : Json} {o : Options} (read : Options.ofJson v = .ok o) :
    ∃ given, v.Gives given := by
  cases v with
  | null => exact ⟨[], .null⟩
  | object fields =>
      obtain ⟨given, named, once, -⟩ := exists_named read
      exact ⟨given, .object named once⟩
  | array items =>
      refine ⟨_, .array (Nat.not_lt.mp fun long => ?_)⟩
      simp only [Options.ofJson, if_pos long] at read
      cases set : Options.setInOrder {} OptionName.all items <;> rw [set] at read <;>
        exact nomatch read
  | bool b => exact nomatch read
  | number n => exact nomatch read
  | string s => exact nomatch read

/-- What options are read as: they follow what the value gives. -/
theorem ofJson_eq_ok_iff {v : Json} {o : Options} :
    Options.ofJson v = .ok o ↔
      ∃ given, v.Gives given ∧ (∀ choice ∈ given, choice.1.Takes choice.2) ∧
        o.Follows given {} := by
  constructor
  · intro read
    obtain ⟨given, gives⟩ := exists_gives read
    rw [ofJson_of_gives gives] at read
    exact ⟨given, gives, exists_setAll_iff.mp ⟨o, read⟩,
      follows_setAll (nodup_of_gives gives) read⟩
  · rintro ⟨given, gives, taken, follows⟩
    obtain ⟨o', set⟩ := exists_setAll_iff.mpr taken
    obtain rfl := follows.unique (follows_setAll (nodup_of_gives gives) set)
    exact (ofJson_of_gives gives).trans set

/-! ### Writing -/

/-- The options in the order of their names. -/
def OptionName.sorted : List OptionName :=
  [allowUnsecureCustomElement, allowUnsecureElements, allowUnsecureHtmlElement, componentKeyCase,
    displayErrorMessage, legacyPropsChildren, maxDepth]

theorem mem_sorted (option : OptionName) : option ∈ OptionName.sorted := by
  cases option <;> decide

theorem name_mem_spellings (option : OptionName) : option.name ∈ option.spellings := by
  cases option <;> decide

/-- What options hold can be given for them, and it is already in the one spelling. -/
theorem takes_value (o : Options) (option : OptionName) :
    option.Takes (o.value option) ∧ option.canonical (o.value option) = o.value option := by
  cases option
  case allowUnsecureElements =>
    refine ⟨?_, rfl⟩
    change (∃ b, o.allowUnsecureElements.toJson = .bool b) ∨
      ∃ names : List String, o.allowUnsecureElements.toJson = .array (names.map .string)
    cases o.allowUnsecureElements with
    | all b => exact .inl ⟨b, rfl⟩
    | listed names => exact .inr ⟨names, rfl⟩
  case componentKeyCase => exact ⟨⟨o.componentKeyCase, .inl rfl⟩, rfl⟩
  case maxDepth => exact ⟨⟨o.maxDepth.toNat, o.maxDepth.toNat_lt, rfl⟩, rfl⟩
  all_goals exact ⟨⟨_, rfl⟩, rfl⟩

/-- Options are read back from the value that they are written as. -/
theorem ofJson_toJson (o : Options) : Options.ofJson o.toJson = .ok o := by
  let given := OptionName.sorted.map fun option => (option, o.value option)
  have written : o.toJson
      = .object (OptionName.sorted.map fun option => (option.name, o.value option)) := rfl
  have options : given.map Prod.fst = OptionName.sorted := rfl
  rw [written]
  refine ofJson_eq_ok_iff.mpr ⟨given, .object ?named (by rw [options]; decide), ?taken, ?present,
    fun option missing => absurd (mem_sorted option) (options ▸ missing)⟩
  case named =>
    refine List.forall₂_map_left_iff.mpr (List.forall₂_map_right_iff.mpr
      (List.forall₂_same.mpr fun option _ => ?_))
    exact ⟨name_mem_spellings option, rfl⟩
  case taken =>
    rw [List.forall_mem_map]
    exact fun option _ => (takes_value o option).1
  case present =>
    rw [List.forall_mem_map]
    exact fun option _ => (takes_value o option).2.symm

/-! ### From a value to settings -/

/-- **Options are accepted exactly as specified.** A value is read as options exactly if it gives
some of them, by name or by place and none of them twice, each with a value that it takes; the rest
has its default. Every choice of options is read back from what it is written as. Options are
accepted exactly if the greatest depth is at least one and no listed name is blank; otherwise the
depth is reported, or else the first blank name. What is accepted has the wildcard merged into
it. -/
theorem options_accepted :
    (∀ v, (∃ o, Options.ofJson v = .ok o) ↔
      ∃ given, v.Gives given ∧ ∀ choice ∈ given, choice.1.Takes choice.2) ∧
    (∀ v o given, v.Gives given → Options.ofJson v = .ok o → o.Follows given {}) ∧
    (∀ o : Options, Options.ofJson o.toJson = .ok o) ∧
    ∀ o : Options,
      ((∃ s, o.resolve = .ok s) ↔
        1 ≤ o.maxDepth ∧ ∀ name ∈ o.allowUnsecureElements.names, Text.trimmed name ≠ "") ∧
      (o.resolve = .error .zeroDepth ↔ o.maxDepth = 0) ∧
      (∀ index, o.resolve = .error (.blankEntry index) ↔
        o.maxDepth ≠ 0 ∧ ∃ name, o.allowUnsecureElements.names[index]? = some name ∧
          Text.trimmed name = "" ∧
          ∀ other ∈ o.allowUnsecureElements.names.take index, Text.trimmed other ≠ "") ∧
      ∀ s, o.resolve = .ok s → o.MergesTo s := by
  refine ⟨fun v => ?accepted, fun v o given gives read => ?held, ofJson_toJson, fun o =>
    ⟨exists_resolve_iff, resolve_eq_error_iff.trans fault?_eq_zeroDepth_iff,
      fun index => resolve_eq_error_iff.trans fault?_eq_blankEntry_iff, fun s resolved => ?merged⟩⟩
  case accepted =>
    constructor
    · rintro ⟨o, read⟩
      obtain ⟨given, gives, taken, -⟩ := ofJson_eq_ok_iff.mp read
      exact ⟨given, gives, taken⟩
    · rintro ⟨given, gives, taken⟩
      rw [ofJson_of_gives gives]
      exact exists_setAll_iff.mpr taken
  case held =>
    rw [ofJson_of_gives gives] at read
    exact follows_setAll (nodup_of_gives gives) read
  case merged =>
    obtain ⟨-, rfl⟩ := resolve_eq_ok_iff.mp resolved
    exact o.mergesTo_settings

/-- Two second names and the second spelling of a case policy: what they give is read, a blank entry
is then reported by its place, and the wildcard is merged into options that have it. -/
theorem options_accepted_second_names :
    let names : Json := .array [.string "p", .string " "]
    let case : Json := .object [("kebab", .null)]
    let v : Json := .object
      [("allowElements", names), ("componentKeyCase", case), ("htmlElement", .bool true)]
    let given : List (OptionName × Json) :=
      [(.allowUnsecureElements, names), (.componentKeyCase, case),
        (.allowUnsecureHtmlElement, .bool true)]
    let o : Options :=
      { allowUnsecureElements := .listed ["p", " "]
        allowUnsecureHtmlElement := true
        componentKeyCase := .kebab }
    let wide : Options := { o with allowUnsecureElements := .all true }
    v.Gives given ∧ Options.ofJson v = .ok o ∧ o.Follows given {} ∧
      o.resolve = .error (.blankEntry 1) ∧ wide.resolve = .ok wide.settings ∧
      wide.MergesTo wide.settings := by
  intro names case v given o wide
  obtain ⟨-, follows, -, merges⟩ := options_accepted
  have gives : v.Gives given :=
    .object (.cons ⟨by decide, rfl⟩ (.cons ⟨by decide, rfl⟩ (.cons ⟨by decide, rfl⟩ .nil)))
      (by decide)
  exact ⟨gives, rfl, follows v o given gives rfl, by decide, rfl, (merges wide).2.2.2 _ rfl⟩

end ComponentTree
