import ComponentTree.Json.Reader
import ComponentTree.Proofs.Decimal.Text
import Mathlib.Tactic.FinCases

/-!
The text of a JSON value determines the value, and so does any text that begins with it: where one
value ends and what follows it begins can be told from the characters alone.

* `readString_written` — a string is read back from its text by the reader of source texts.
* `Json.Kind` — the kind of a value is told by the first character of its text.
* `write_inj`, `writeItems_inj`, `writeFields_inj` — values, items and fields, by one induction over
  all of them; a number goes on as long as there are characters of numbers (`Ends`).
* `text_injective` — different values have different texts.
* `le_toNat_of_mem_text` — no text holds a control character.
-/

namespace ComponentTree.Json

open Decimal

/-! ### Strings -/

/-- A character stands for itself, or for it stands a backslash and a code that is read back. -/
theorem escape_cases (c : Char) :
    (escape c = [c] ∧ c ≠ '"' ∧ c ≠ '\\' ∧ ¬c.toNat < 32) ∨
      ∃ code, escape c = '\\' :: code ∧ ∀ rest, readEscape (code ++ rest) = .ok (c, rest) := by
  have numbered : ∀ n : Fin 32, ∀ rest,
      readEscape (['u', '0', '0', hexDigit (n / 16), hexDigit (n % 16)] ++ rest)
        = .ok (Char.ofNat n, rest) := by
    intro n rest
    fin_cases n <;> rfl
  have ofNat : ∀ {n : Nat}, c.toNat = n → c = Char.ofNat n := by
    rintro n rfl
    exact (Char.ofNat_toNat c).symm
  unfold escape
  split_ifs with quote backslash newline carriage tab back feed control
  · exact .inr ⟨_, rfl, fun rest => by rw [quote]; rfl⟩
  · exact .inr ⟨_, rfl, fun rest => by rw [backslash]; rfl⟩
  · exact .inr ⟨_, rfl, fun rest => by rw [newline]; rfl⟩
  · exact .inr ⟨_, rfl, fun rest => by rw [carriage]; rfl⟩
  · exact .inr ⟨_, rfl, fun rest => by rw [tab]; rfl⟩
  · exact .inr ⟨_, rfl, fun rest => ofNat back ▸ rfl⟩
  · exact .inr ⟨_, rfl, fun rest => ofNat feed ▸ rfl⟩
  · refine .inr ⟨_, rfl, fun rest => ?_⟩
    have read := numbered ⟨c.toNat, control⟩ rest
    rwa [Char.ofNat_toNat] at read
  · exact .inl ⟨rfl, quote, backslash, control⟩

/-- **A string is read back from its text**, with everything that follows it left. -/
theorem readString_written (s before rest : List Char) {fuel : Nat} (enough : s.length < fuel) :
    readString before (s.foldr (fun c tail => escape c ++ tail) ('"' :: rest)) fuel
      = .ok (String.ofList (before.reverse ++ s), rest) := by
  induction s generalizing before fuel with
  | nil =>
    obtain ⟨fuel, rfl⟩ := Nat.exists_eq_add_of_lt enough
    simp [readString]
  | cons c s ih =>
    obtain ⟨fuel, rfl⟩ : ∃ n, fuel = n + 1 := ⟨fuel - 1, by omega⟩
    have shorter : s.length < fuel := by simpa using enough
    have next := ih (c :: before) shorter
    rw [List.reverse_cons, List.append_assoc, List.singleton_append] at next
    rw [List.foldr_cons]
    rcases escape_cases c with ⟨plain, quote, backslash, control⟩ | ⟨code, escaped, read⟩
    · rw [plain, List.singleton_append, readString, if_neg quote, if_neg backslash, if_neg control,
        next]
    · rw [escaped, List.cons_append, readString, if_neg (by decide), if_pos rfl, read]
      exact next

theorem writeString_inj {s s' : String} {rest rest' : List Char}
    (same : writeString s rest = writeString s' rest') : s = s' ∧ rest = rest' := by
  have tails := (List.cons.inj same).2
  have enough : s.toList.length < s.toList.length + s'.toList.length + 1 := by omega
  have enough' : s'.toList.length < s.toList.length + s'.toList.length + 1 := by omega
  have read := readString_written s.toList [] rest enough
  have read' := readString_written s'.toList [] rest' enough'
  rw [tails, read'] at read
  simpa [eq_comm] using read

/-! ### Kinds of values -/

/-- What a value is, at first sight. -/
inductive Kind where
  | null
  | bool
  | number
  | string
  | array
  | object
deriving DecidableEq

/-- The kind of a value. -/
def kind : Json → Kind
  | .null => .null
  | .bool _ => .bool
  | .number _ => .number
  | .string _ => .string
  | .array _ => .array
  | .object _ => .object

/-- The kind of the value that a text begins with, by the first character. -/
def Kind.ofChar (c : Char) : Kind :=
  if c = 'n' then .null
  else if c = 't' ∨ c = 'f' then .bool
  else if c = '"' then .string
  else if c = '[' then .array
  else if c = '{' then .object
  else .number

theorem Kind.ofChar_of_number {c : Char} (first : c.isDigit = true ∨ c = '-') :
    Kind.ofChar c = .number := by
  rcases first with digit | rfl
  · have other : ∀ d : Char, d.isDigit = false → c ≠ d := fun d => ne_of_isDigit digit
    simp [Kind.ofChar, other]
  · rfl

/-- A text begins with a character that tells the kind of its value, and that ends no list. -/
theorem exists_write_eq_cons (value : Json) (rest : List Char) :
    ∃ c tail, value.write rest = c :: tail ∧ Kind.ofChar c = value.kind ∧ c ≠ ']' := by
  cases value with
  | null => exact ⟨'n', _, by rw [write], rfl, by decide⟩
  | bool b =>
    cases b with
    | false => exact ⟨'f', _, by rw [write], rfl, by decide⟩
    | true => exact ⟨'t', _, by rw [write], rfl, by decide⟩
  | number n =>
    obtain ⟨c, tail, chars, first⟩ := n.exists_chars_eq_cons
    refine ⟨c, tail ++ rest, by rw [write, chars, List.cons_append],
      Kind.ofChar_of_number first, ?_⟩
    rintro rfl
    simp at first
  | string s => exact ⟨'"', _, by rw [write, writeString], rfl, by decide⟩
  | array items => exact ⟨'[', _, by rw [write], rfl, by decide⟩
  | object fields => exact ⟨'\x7b', _, by rw [write], rfl, by decide⟩

theorem kind_eq_of_write {v w : Json} {rest rest' : List Char}
    (same : v.write rest = w.write rest') : v.kind = w.kind := by
  obtain ⟨c, tail, first, kind, -⟩ := v.exists_write_eq_cons rest
  obtain ⟨c', tail', first', kind', -⟩ := w.exists_write_eq_cons rest'
  rw [first, first'] at same
  rw [← kind, ← kind', (List.cons.inj same).1]

/-! ### Where a value ends -/

/-- No number goes on into what follows. -/
def Ends (rest : List Char) : Prop :=
  ∀ c ∈ rest.head?, isNumberChar c = false

theorem ends_nil : Ends [] := by
  simp [Ends]

theorem ends_cons {c : Char} (other : isNumberChar c = false) (rest : List Char) :
    Ends (c :: rest) := by
  simpa [Ends] using other

/-- A number ends where the characters of numbers end. -/
theorem number_inj {m n : Number} {rest rest' : List Char} (ends : Ends rest)
    (ends' : Ends rest') (same : m.chars ++ rest = n.chars ++ rest') : m = n ∧ rest = rest' := by
  have taken : ∀ (n : Number) {rest : List Char}, Ends rest →
      (n.chars ++ rest).takeWhile isNumberChar = n.chars := by
    intro n rest ends
    rw [List.takeWhile_append_of_pos fun c => n.isNumberChar_of_mem]
    cases rest with
    | nil => simp
    | cons c rest =>
      have other : isNumberChar c = false := ends c rfl
      rw [List.takeWhile_cons_of_neg (by simp [other]), List.append_nil]
  have chars : m.chars = n.chars := by rw [← taken m ends, same, taken n ends']
  obtain rfl := Number.chars_injective chars
  exact ⟨rfl, List.append_cancel_left same⟩

/-- What follows an item: the end of its list, or the items that are left. -/
def moreItems : List Json → List Char → List Char
  | [], rest => ']' :: rest
  | items, rest => ',' :: writeItems items rest

theorem writeItems_cons (item : Json) (items : List Json) (rest : List Char) :
    writeItems (item :: items) rest = item.write (moreItems items rest) := by
  cases items with
  | nil => rw [writeItems, moreItems]
  | cons next items => rw [writeItems, moreItems] <;> simp

theorem ends_moreItems (items : List Json) (rest : List Char) : Ends (moreItems items rest) := by
  cases items with
  | nil => exact ends_cons rfl _
  | cons next items => exact ends_cons rfl _

/-- What follows a field: the end of its object, or the fields that are left. -/
def moreFields : List (String × Json) → List Char → List Char
  | [], rest => '\x7d' :: rest
  | fields, rest => ',' :: writeFields fields rest

theorem writeFields_cons (name : String) (value : Json) (fields : List (String × Json))
    (rest : List Char) :
    writeFields ((name, value) :: fields) rest
      = writeString name (':' :: value.write (moreFields fields rest)) := by
  cases fields with
  | nil => rw [writeFields, moreFields]
  | cons next fields => rw [writeFields, moreFields] <;> simp

theorem ends_moreFields (fields : List (String × Json)) (rest : List Char) :
    Ends (moreFields fields rest) := by
  cases fields with
  | nil => exact ends_cons rfl _
  | cons next fields => exact ends_cons rfl _

/-! ### Different values have different texts -/

mutual

theorem write_inj : ∀ (v w : Json) {rest rest' : List Char}, Ends rest → Ends rest' →
    v.write rest = w.write rest' → v = w ∧ rest = rest'
  | .null, w, _, _, _, _, same => by
      have kind := kind_eq_of_write same
      cases w with
      | null => simpa [write] using same
      | _ => exact nomatch kind
  | .bool b, w, _, _, _, _, same => by
      have kind := kind_eq_of_write same
      cases w with
      | bool b' => cases b <;> cases b' <;> simp_all [write]
      | _ => exact nomatch kind
  | .number m, w, _, _, ends, ends', same => by
      have kind := kind_eq_of_write same
      cases w with
      | number n =>
          rw [write, write] at same
          obtain ⟨rfl, rest⟩ := number_inj ends ends' same
          exact ⟨rfl, rest⟩
      | _ => exact nomatch kind
  | .string s, w, _, _, _, _, same => by
      have kind := kind_eq_of_write same
      cases w with
      | string s' =>
          rw [write, write] at same
          obtain ⟨rfl, rest⟩ := writeString_inj same
          exact ⟨rfl, rest⟩
      | _ => exact nomatch kind
  | .array items, w, _, _, _, _, same => by
      have kind := kind_eq_of_write same
      cases w with
      | array items' =>
          rw [write, write] at same
          obtain ⟨rfl, rest⟩ := writeItems_inj items items' (List.cons.inj same).2
          exact ⟨rfl, rest⟩
      | _ => exact nomatch kind
  | .object fields, w, _, _, _, _, same => by
      have kind := kind_eq_of_write same
      cases w with
      | object fields' =>
          rw [write, write] at same
          obtain ⟨rfl, rest⟩ := writeFields_inj fields fields' (List.cons.inj same).2
          exact ⟨rfl, rest⟩
      | _ => exact nomatch kind

theorem writeItems_inj : ∀ (items items' : List Json) {rest rest' : List Char},
    writeItems items rest = writeItems items' rest' → items = items' ∧ rest = rest'
  | [], [], _, _, same => by simpa [writeItems] using same
  | [], item :: items, rest, rest', same => by
      obtain ⟨c, tail, first, -, other⟩ := item.exists_write_eq_cons (moreItems items rest')
      rw [writeItems_cons, first, writeItems] at same
      exact absurd (List.cons.inj same).1.symm other
  | item :: items, [], rest, rest', same => by
      obtain ⟨c, tail, first, -, other⟩ := item.exists_write_eq_cons (moreItems items rest)
      rw [writeItems_cons, first, writeItems] at same
      exact absurd (List.cons.inj same).1 other
  | item :: items, item' :: items', rest, rest', same => by
      rw [writeItems_cons, writeItems_cons] at same
      obtain ⟨rfl, more⟩ := write_inj item item' (ends_moreItems _ _) (ends_moreItems _ _) same
      have tails : items = items' ∧ rest = rest' := by
        cases items with
        | nil =>
            cases items' with
            | nil => simpa [moreItems] using more
            | cons _ _ => simp [moreItems] at more
        | cons next items =>
            cases items' with
            | nil => simp [moreItems] at more
            | cons next' items' =>
                exact writeItems_inj (next :: items) (next' :: items') (List.cons.inj more).2
      exact ⟨congrArg _ tails.1, tails.2⟩

theorem writeFields_inj : ∀ (fields fields' : List (String × Json)) {rest rest' : List Char},
    writeFields fields rest = writeFields fields' rest' → fields = fields' ∧ rest = rest'
  | [], [], _, _, same => by simpa [writeFields] using same
  | [], (name, value) :: fields, rest, rest', same => by
      rw [writeFields_cons, writeFields, writeString] at same
      exact absurd (List.cons.inj same).1 (by decide)
  | (name, value) :: fields, [], rest, rest', same => by
      rw [writeFields_cons, writeFields, writeString] at same
      exact absurd (List.cons.inj same).1 (by decide)
  | (name, value) :: fields, (name', value') :: fields', rest, rest', same => by
      rw [writeFields_cons, writeFields_cons] at same
      obtain ⟨rfl, values⟩ := writeString_inj same
      obtain ⟨rfl, more⟩ := write_inj value value' (ends_moreFields _ _) (ends_moreFields _ _)
        (List.cons.inj values).2
      have tails : fields = fields' ∧ rest = rest' := by
        cases fields with
        | nil =>
            cases fields' with
            | nil => simpa [moreFields] using more
            | cons _ _ => simp [moreFields] at more
        | cons next fields =>
            cases fields' with
            | nil => simp [moreFields] at more
            | cons next' fields' =>
                exact writeFields_inj (next :: fields) (next' :: fields') (List.cons.inj more).2
      exact ⟨congrArg _ tails.1, tails.2⟩

end

/-- **The text of a value determines the value.** -/
theorem text_injective : Function.Injective Json.text := by
  intro v w same
  have chars : v.chars = w.chars := String.ofList_injective same
  exact (write_inj v w ends_nil ends_nil chars).1

/-! ### Characters of texts -/

/-- No character is a control character. -/
def Shown (cs : List Char) : Prop :=
  ∀ c ∈ cs, 32 ≤ c.toNat

instance : DecidablePred Shown := fun cs =>
  decidable_of_iff (cs.all fun c => 32 ≤ c.toNat) (by simp [Shown])

theorem shown_cons {c : Char} {cs : List Char} (here : 32 ≤ c.toNat) (later : Shown cs) :
    Shown (c :: cs) :=
  List.forall_mem_cons.mpr ⟨here, later⟩

theorem shown_append {cs ds : List Char} (first : Shown cs) (second : Shown ds) :
    Shown (cs ++ ds) :=
  List.forall_mem_append.mpr ⟨first, second⟩

theorem shown_escape (c : Char) : Shown (escape c) := by
  have numbered : ∀ n : Fin 32,
      Shown ['\\', 'u', '0', '0', hexDigit (n / 16), hexDigit (n % 16)] := by
    decide
  unfold escape
  split_ifs with quote backslash newline carriage tab back feed control
  all_goals try decide
  · exact numbered ⟨c.toNat, control⟩
  · exact List.forall_mem_singleton.mpr (not_lt.mp control)

theorem shown_writeString (s : String) {rest : List Char} (shown : Shown rest) :
    Shown (writeString s rest) := by
  have body : ∀ cs : List Char,
      Shown (cs.foldr (fun c tail => escape c ++ tail) ('"' :: rest)) := by
    intro cs
    induction cs with
    | nil => exact shown_cons (by decide) shown
    | cons c cs ih => exact shown_append (shown_escape c) ih
  exact shown_cons (by decide) (body s.toList)

theorem le_toNat_of_isNumberChar {c : Char} (h : isNumberChar c = true) : 32 ≤ c.toNat := by
  simp only [isNumberChar, Bool.or_eq_true, beq_iff_eq] at h
  rcases h with ((digit | rfl) | rfl) | rfl
  · simp only [Char.isDigit, Bool.and_eq_true, decide_eq_true_eq, UInt32.le_iff_toNat_le] at digit
    change 48 ≤ c.toNat ∧ c.toNat ≤ 57 at digit
    omega
  · decide
  · decide
  · decide

mutual

theorem shown_write : ∀ (value : Json) {rest : List Char}, Shown rest → Shown (value.write rest)
  | .null, _, shown => by
      rw [write]
      have word : Shown ['n', 'u', 'l', 'l'] := by decide
      exact shown_append word shown
  | .bool true, _, shown => by
      rw [write]
      have word : Shown ['t', 'r', 'u', 'e'] := by decide
      exact shown_append word shown
  | .bool false, _, shown => by
      rw [write]
      have word : Shown ['f', 'a', 'l', 's', 'e'] := by decide
      exact shown_append word shown
  | .number n, _, shown => by
      rw [write]
      have number : Shown n.chars :=
        fun c member => le_toNat_of_isNumberChar (n.isNumberChar_of_mem member)
      exact shown_append number shown
  | .string s, _, shown => by
      rw [write]
      exact shown_writeString s shown
  | .array items, _, shown => by
      rw [write]
      exact shown_cons (by decide) (shown_writeItems items shown)
  | .object fields, _, shown => by
      rw [write]
      exact shown_cons (by decide) (shown_writeFields fields shown)

theorem shown_writeItems : ∀ (items : List Json) {rest : List Char}, Shown rest →
    Shown (writeItems items rest)
  | [], _, shown => by
      rw [writeItems]
      exact shown_cons (by decide) shown
  | [item], _, shown => by
      rw [writeItems]
      exact shown_write item (shown_cons (by decide) shown)
  | item :: next :: items, _, shown => by
      rw [writeItems_cons, moreItems]
      · exact shown_write item (shown_cons (by decide) (shown_writeItems (next :: items) shown))
      · simp

theorem shown_writeFields : ∀ (fields : List (String × Json)) {rest : List Char}, Shown rest →
    Shown (writeFields fields rest)
  | [], _, shown => by
      rw [writeFields]
      exact shown_cons (by decide) shown
  | [(name, value)], _, shown => by
      rw [writeFields]
      exact shown_writeString name
        (shown_cons (by decide) (shown_write value (shown_cons (by decide) shown)))
  | (name, value) :: next :: fields, _, shown => by
      rw [writeFields_cons, moreFields]
      · exact shown_writeString name (shown_cons (by decide) (shown_write value
          (shown_cons (by decide) (shown_writeFields (next :: fields) shown))))
      · simp

end

/-- **No text holds a control character**, whatever the strings in the value hold. -/
theorem le_toNat_of_mem_text {value : Json} {c : Char} (member : c ∈ value.text.toList) :
    32 ≤ c.toNat := by
  rw [text, String.toList_ofList] at member
  exact shown_write value (List.forall_mem_nil _) c member

end ComponentTree.Json
