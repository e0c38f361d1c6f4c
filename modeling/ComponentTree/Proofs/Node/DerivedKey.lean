import ComponentTree.Node.Key
import ComponentTree.Proofs.Json.Text
import ComponentTree.Proofs.Node.Roundtrip

/-!
What a derived key is a hash of determines the element and its position. The text of the element
comes first and holds no zero byte, so the first zero byte ends it; what follows is the position,
whose last index follows its last dot.

* `Element.text_injective` — different elements have different texts.
* `Element.hashInput_inj` — what is hashed determines the element and the path as texts.
* `childPath_inj`, `pathOf_injective` — a path determines the indexes that it was made of, however
  many they are and however many digits they have.
* `Element.derivedKey_eq_iff` — two derived keys are the same exactly if the hashes agree in their
  first 64 bits.
-/

namespace ComponentTree

/-! ### Paths -/

/-- The path of the position that indexes lead to from the root. -/
def pathOf (indexes : List Nat) : String :=
  indexes.foldl childPath ""

theorem pathOf_concat (indexes : List Nat) (i : Nat) :
    pathOf (indexes ++ [i]) = childPath (pathOf indexes) i := by
  rw [pathOf, List.foldl_append]
  rfl

/-- Read backwards, a path is cut at its first dot into its last index and the path before. -/
theorem cut_reverse_childPath (parent : String) (i : Nat) :
    Decimal.cut '.' (childPath parent i).toList.reverse
      = ((Decimal.digitChars i).reverse, parent.toList.reverse) := by
  have index : (Nat.repr i).toList = Decimal.digitChars i := Nat.toList_repr
  have noDot : '.' ∉ (Decimal.digitChars i).reverse := by
    rw [List.mem_reverse]
    exact Decimal.not_mem_of_isDigit rfl fun _ => Decimal.isDigit_of_mem_digitChars
  by_cases top : parent = ""
  · subst top
    rw [childPath, if_pos (by decide), index, Decimal.cut_of_not_mem noDot]
    rfl
  · have text : (parent ++ "." ++ Nat.repr i).toList.reverse
        = (Decimal.digitChars i).reverse ++ '.' :: parent.toList.reverse := by
      simp [index]
    rw [childPath, if_neg (by simpa using top), text, Decimal.cut_append noDot]

/-- The path of a sibling determines its index and the path of its parent. -/
theorem childPath_inj {parent parent' : String} {i j : Nat}
    (same : childPath parent i = childPath parent' j) : parent = parent' ∧ i = j := by
  have cuts := cut_reverse_childPath parent i
  rw [same, cut_reverse_childPath, Prod.mk.injEq, List.reverse_inj, List.reverse_inj] at cuts
  obtain ⟨digits, before⟩ := cuts
  refine ⟨(String.toList_inj.mp before).symm, ?_⟩
  rw [← Decimal.digitsValue_digitChars i, ← digits, Decimal.digitsValue_digitChars]

theorem childPath_ne_empty (parent : String) (i : Nat) : childPath parent i ≠ "" := by
  intro empty
  have cuts := cut_reverse_childPath parent i
  rw [empty] at cuts
  have digits : [] = (Decimal.digitChars i).reverse := congrArg Prod.fst cuts
  exact Nat.toDigits_ne_nil (List.reverse_eq_nil_iff.mp digits.symm)

/-- **A path determines the indexes that it was made of.** The induction takes off the last index of
both. -/
theorem pathOf_injective : Function.Injective pathOf := by
  intro s
  induction s using List.reverseRecOn with
  | nil =>
      intro t same
      cases t using List.reverseRecOn with
      | nil => rfl
      | append_singleton t j =>
          rw [pathOf_concat] at same
          exact absurd same.symm (childPath_ne_empty _ _)
  | append_singleton s i ih =>
      intro t same
      cases t using List.reverseRecOn with
      | nil =>
          rw [pathOf_concat] at same
          exact absurd same (childPath_ne_empty _ _)
      | append_singleton t j =>
          rw [pathOf_concat, pathOf_concat] at same
          obtain ⟨before, rfl⟩ := childPath_inj same
          rw [ih before]

/-! ### What is hashed -/

namespace Element

/-- **The text of an element determines the element**, since it is read back from the value that
its text is the text of. -/
theorem text_injective : Function.Injective Element.text := by
  intro a b same
  have values : a.toJson .declared = b.toJson .declared := Json.text_injective same
  obtain ⟨fields, written, read⟩ := a.exists_fields_toJson .declared
  obtain ⟨fields', written', read'⟩ := b.exists_fields_toJson .declared
  rw [written, written', Json.object.injEq] at values
  rw [← read, values, read']

/-- The zero byte that keeps the text and the path apart is not part of the text. -/
theorem zero_not_mem_text (e : Element) : Char.ofNat 0 ∉ e.text.toList := by
  intro member
  exact absurd (Json.le_toNat_of_mem_text member) (by decide)

/-- What is hashed is itself a text: that of the element, a zero character, and the path. -/
theorem hashInput_eq (e : Element) (path : String) :
    e.hashInput path = (e.text ++ String.singleton (Char.ofNat 0) ++ path).toByteArray := by
  have zero : (String.singleton (Char.ofNat 0)).toByteArray = ⟨#[0]⟩ := by decide
  have pushed : ∀ bytes : ByteArray, bytes.push 0 = bytes ++ ⟨#[0]⟩ := by
    intro bytes
    ext1
    simp
  rw [String.toByteArray_append, String.toByteArray_append, zero, ← pushed]
  rfl

/-- **What is hashed determines the element and the path**, whatever text the path is. -/
theorem hashInput_inj {a b : Element} {p q : String} (same : a.hashInput p = b.hashInput q) :
    a = b ∧ p = q := by
  have chars : ∀ (e : Element) (path : String),
      (e.text ++ String.singleton (Char.ofNat 0) ++ path).toList
        = e.text.toList ++ Char.ofNat 0 :: path.toList := by
    intro e path
    simp
  rw [hashInput_eq, hashInput_eq, String.toByteArray_inj, ← String.toList_inj, chars, chars]
    at same
  have cuts := Decimal.cut_append a.zero_not_mem_text p.toList
  rw [same, Decimal.cut_append b.zero_not_mem_text, Prod.mk.injEq] at cuts
  obtain ⟨texts, paths⟩ := cuts
  exact ⟨text_injective (String.toList_inj.mp texts).symm, (String.toList_inj.mp paths).symm⟩

end Element

/-! ### Derived keys -/

namespace Sha256

theorem digitChar_inj {m n : Nat} (hm : m < 16) (hn : n < 16)
    (same : Nat.digitChar m = Nat.digitChar n) : m = n := by
  have each : ∀ i j : Fin 16, Nat.digitChar i = Nat.digitChar j → i = j := by decide
  exact congrArg Fin.val (each ⟨m, hm⟩ ⟨n, hn⟩ same)

theorem length_hexWord (w : UInt32) : (hexWord w).length = 8 := by
  rw [hexWord, List.length_map, List.length_range]

/-- Hexadecimal digits determine a number with no more digits than that. The induction takes off the
last digit. -/
theorem eq_of_digits {count m n : Nat} (hm : m < 16 ^ count) (hn : n < 16 ^ count)
    (same : ∀ i < count, m >>> (4 * i) % 16 = n >>> (4 * i) % 16) : m = n := by
  induction count generalizing m n with
  | zero => omega
  | succ count ih =>
      have higher : ∀ x i : Nat, x >>> (4 * (i + 1)) = (x / 16) >>> (4 * i) := by
        intro x i
        rw [Nat.mul_add_one, Nat.add_comm, Nat.shiftRight_add, Nat.shiftRight_eq_div_pow x 4]
      have rest : m / 16 = n / 16 := by
        refine ih (Nat.div_lt_of_lt_mul ?_) (Nat.div_lt_of_lt_mul ?_) fun i hi => ?_
        · rwa [← Nat.pow_succ']
        · rwa [← Nat.pow_succ']
        · rw [← higher, ← higher]
          exact same (i + 1) (Nat.succ_lt_succ hi)
      have last : m % 16 = n % 16 := same 0 (Nat.succ_pos count)
      omega

/-- The eight digits of a word determine the word. -/
theorem hexWord_injective : Function.Injective hexWord := by
  intro v w same
  have digit : ∀ i < 8, v.toNat >>> (4 * i) % 16 = w.toNat >>> (4 * i) % 16 := by
    intro i hi
    have shown : 7 - i ∈ List.range 8 := List.mem_range.mpr (by omega)
    have chars := List.map_inj_left.mp same (7 - i) shown
    rw [Nat.sub_sub_self (Nat.le_of_lt_succ hi)] at chars
    exact digitChar_inj (Nat.mod_lt _ (by decide)) (Nat.mod_lt _ (by decide)) chars
  exact UInt32.toNat_inj.mp (eq_of_digits v.toNat_lt w.toNat_lt digit)

/-- Sixteen digits of a hash are its first two words. -/
theorem take_hexDigest (message : ByteArray) :
    (hexDigest message).take 16 = hexWord (hash message).a ++ hexWord (hash message).b := by
  have digits : hexDigest message = (hexWord (hash message).a ++ hexWord (hash message).b)
      ++ [(hash message).c, (hash message).d, (hash message).e, (hash message).f,
        (hash message).g, (hash message).h].flatMap hexWord := by
    rw [List.append_assoc]
    rfl
  rw [digits]
  refine List.take_left' ?_
  rw [List.length_append, length_hexWord, length_hexWord]

/-- The first 64 bits of a hash. -/
def first64 (message : ByteArray) : UInt32 × UInt32 :=
  ((hash message).a, (hash message).b)

end Sha256

namespace Element

/-- Two derived keys are the same exactly if what was hashed for them agrees in the first 64 bits of
its hash. -/
theorem derivedKey_eq_iff {a b : Element} {p q : String} :
    a.derivedKey p = b.derivedKey q
      ↔ Sha256.first64 (a.hashInput p) = Sha256.first64 (b.hashInput q) := by
  rw [derivedKey, derivedKey, String.append_right_inj, String.ofList_inj, Sha256.take_hexDigest,
    Sha256.take_hexDigest, Sha256.first64, Sha256.first64, Prod.mk.injEq]
  constructor
  · intro digits
    have lengths : (Sha256.hexWord (Sha256.hash (a.hashInput p)).a).length
        = (Sha256.hexWord (Sha256.hash (b.hashInput q)).a).length := by
      rw [Sha256.length_hexWord, Sha256.length_hexWord]
    obtain ⟨first, second⟩ := List.append_inj digits lengths
    exact ⟨Sha256.hexWord_injective first, Sha256.hexWord_injective second⟩
  · rintro ⟨first, second⟩
    rw [first, second]

end Element

end ComponentTree
