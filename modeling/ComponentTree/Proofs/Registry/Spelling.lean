import ComponentTree.KeyCase
import Mathlib.Data.List.Basic

/-!
Names that are keys already. A policy that joins lower-case words by a mark gives such a name back
when it is applied once more, as long as the name was written in ASCII; policies that run words
together do not, since words of one letter melt into one: `a-b` becomes `AB`, and `AB` is one word.

* `words_append_break` — words are split at every character that is no letter or number.
* `mem_words` — a word is not empty and consists of letters and numbers of the name.
* `words_intercalate` — words of plain characters are read back from the name they are joined to.
* `KeyCase.apply_apply` — a key of an ASCII name is a key of itself.
-/

namespace ComponentTree

namespace Text

/-! ### Words of a name -/

/-- **Pieces split at a break.** -/
theorem pieces_append_break {c : Char} (h : isAlphanumeric c = false) (x y piece : List Char) :
    pieces piece (x ++ c :: y) = pieces piece x ++ pieces [] y := by
  induction x generalizing piece with
  | nil => simp [pieces, h]
  | cons d x ih => cases hd : isAlphanumeric d <;> simp [pieces, hd, ih]

/-- **Words split at a break.** -/
theorem words_append_break {c : Char} (h : isAlphanumeric c = false) (x y : List Char) :
    words (x ++ c :: y) = words x ++ words y := by
  rw [words, pieces_append_break h, List.flatMap_append, words, words]

/-- Letters and numbers are one piece. -/
theorem pieces_of_forall {w : List Char} (h : ∀ c ∈ w, isAlphanumeric c = true)
    (piece : List Char) : pieces piece w = [piece.reverse ++ w] := by
  induction w generalizing piece with
  | nil => simp [pieces]
  | cons c w ih =>
    rw [List.forall_mem_cons] at h
    simp [pieces, h.1, ih h.2]

/-- The characters of a piece are letters and numbers of the name. -/
theorem of_mem_pieces {name piece p : List Char} (member : p ∈ pieces piece name)
    {c : Char} (hc : c ∈ p) : c ∈ piece ∨ (c ∈ name ∧ isAlphanumeric c = true) := by
  induction name generalizing piece with
  | nil =>
    simp only [pieces, List.mem_singleton] at member
    subst member
    exact .inl (List.mem_reverse.mp hc)
  | cons d name ih =>
    cases hd : isAlphanumeric d with
    | true =>
      simp only [pieces, hd, if_true] at member
      rcases ih member with h | ⟨h, letter⟩
      · rcases List.mem_cons.mp h with rfl | h
        · exact .inr ⟨List.mem_cons_self, hd⟩
        · exact .inl h
      · exact .inr ⟨List.mem_cons_of_mem _ h, letter⟩
    | false =>
      simp only [pieces, hd, Bool.false_eq_true, if_false, List.mem_cons] at member
      rcases member with rfl | member
      · exact .inl (List.mem_reverse.mp hc)
      · rcases ih member with h | ⟨h, letter⟩
        · exact absurd h List.not_mem_nil
        · exact .inr ⟨List.mem_cons_of_mem _ h, letter⟩

/-- Cutting a piece neither adds characters nor loses any. -/
theorem flatten_cutPiece (case : WordCase) (word rest : List Char) :
    (cutPiece case word rest).flatten = word.reverse ++ rest := by
  fun_induction cutPiece case word rest <;> simp_all

/-- The words of a piece are not empty: one that ends before its latest character began with an
upper-case one. -/
theorem ne_nil_of_mem_cutPiece {case : WordCase} {word rest w : List Char}
    (started : case = .upper → word ≠ []) (member : w ∈ cutPiece case word rest) : w ≠ [] := by
  fun_induction cutPiece case word rest with
  | case4 case word c next rest _ ih =>
    rcases List.mem_cons.mp member with rfl | member
    · simp
    · exact ih (by simp) member
  | case5 case word c next rest _ turn ih =>
    rcases List.mem_cons.mp member with rfl | member
    · simpa using started turn.1
    · exact ih (by simp) member
  | _ => simp_all

/-- A word is not empty, and its characters are letters and numbers of the name. -/
theorem mem_words {name w : List Char} (member : w ∈ words name) :
    w ≠ [] ∧ ∀ c ∈ w, c ∈ name ∧ isAlphanumeric c = true := by
  obtain ⟨p, piece, cut⟩ := List.mem_flatMap.mp member
  refine ⟨ne_nil_of_mem_cutPiece (by simp) cut, fun c hc => ?_⟩
  have inPiece : c ∈ p := by
    have h : c ∈ (cutPiece .none [] p).flatten := List.mem_flatten.mpr ⟨w, cut, hc⟩
    rwa [flatten_cutPiece] at h
  exact (of_mem_pieces piece inPiece).resolve_left List.not_mem_nil

/-! ### Plain words -/

/-- A letter or number that is its own lower case and not in upper case. -/
structure Plain (c : Char) : Prop where
  isAlphanumeric : isAlphanumeric c = true
  isUpper : isUpper c = false
  lower : lower c = [c]

/-- Without an upper-case character there is no place to cut. -/
theorem cutPiece_of_forall {w : List Char} (h : ∀ c ∈ w, isUpper c = false)
    (case : WordCase) (word : List Char) (ne : word.reverse ++ w ≠ []) :
    cutPiece case word w = [word.reverse ++ w] := by
  fun_induction cutPiece case word w <;> simp_all

/-- A word of plain characters is one word. -/
theorem words_of_plain {w : List Char} (ne : w ≠ []) (h : ∀ c ∈ w, Plain c) : words w = [w] := by
  rw [words, pieces_of_forall fun c hc => (h c hc).isAlphanumeric, List.flatMap_singleton]
  exact cutPiece_of_forall (fun c hc => (h c hc).isUpper) .none [] ne

/-- Words of plain characters are read back from the name that a mark joins them to. -/
theorem words_intercalate {mark : Char} (gap : isAlphanumeric mark = false)
    {ws : List (List Char)} (h : ∀ w ∈ ws, w ≠ [] ∧ ∀ c ∈ w, Plain c) :
    words (List.intercalate [mark] ws) = ws := by
  induction ws with
  | nil => rfl
  | cons w ws ih =>
    obtain ⟨ne, plain⟩ := h w List.mem_cons_self
    have first : words w = [w] := words_of_plain ne plain
    cases ws with
    | nil => simpa using first
    | cons next ws =>
      rw [List.intercalate_cons_cons, List.append_assoc, List.singleton_append,
        words_append_break gap, first, ih fun w hw => h w (List.mem_cons_of_mem _ hw)]
      rfl

/-- A word of plain characters is in lower case. -/
theorem lowerWord_of_plain {w : List Char} (h : ∀ c ∈ w, Plain c) : lowerWord w = w := by
  fun_induction lowerWord w with
  | case1 => rfl
  | case2 => exact absurd (h 'Σ' List.mem_cons_self).lower (by decide +kernel)
  | case3 c _ => exact (h c List.mem_cons_self).lower
  | case4 c rest _ ih =>
    rw [(h c List.mem_cons_self).lower, ih fun d hd => h d (List.mem_cons_of_mem _ hd)]
    rfl

/-! ### Words in ASCII -/

/-- The lower case of an ASCII letter or number is one plain character. -/
theorem lower_of_ascii {c : Char} (ascii : c.toNat < 128) (letter : isAlphanumeric c = true) :
    ∃ d, Plain d ∧ lower c = [d] := by
  have all : ∀ n : Fin 128, isAlphanumeric (Char.ofNat n) = true →
      isAlphanumeric (Char.ofNat n).toLower = true ∧ isUpper (Char.ofNat n).toLower = false ∧
        lower (Char.ofNat n).toLower = [(Char.ofNat n).toLower] := by
    decide
  have plain := all ⟨c.toNat, ascii⟩
  rw [Char.ofNat_toNat] at plain
  obtain ⟨h₁, h₂, h₃⟩ := plain letter
  exact ⟨c.toLower, ⟨h₁, h₂, h₃⟩, if_pos ascii⟩

/-- An ASCII word in lower case is a plain word. -/
theorem plain_lowerWord {w : List Char} (ne : w ≠ [])
    (h : ∀ c ∈ w, c.toNat < 128 ∧ isAlphanumeric c = true) :
    lowerWord w ≠ [] ∧ ∀ d ∈ lowerWord w, Plain d := by
  fun_induction lowerWord w with
  | case1 => exact absurd rfl ne
  | case2 => exact absurd (h 'Σ' List.mem_cons_self).1 (by decide)
  | case3 c _ =>
    obtain ⟨ascii, letter⟩ := h c List.mem_cons_self
    obtain ⟨d, plain, lowered⟩ := lower_of_ascii ascii letter
    simp [lowered, plain]
  | case4 c rest more ih =>
    obtain ⟨ascii, letter⟩ := h c List.mem_cons_self
    obtain ⟨d, plain, lowered⟩ := lower_of_ascii ascii letter
    have rest := ih (by simpa using more) fun e he => h e (List.mem_cons_of_mem _ he)
    simpa [lowered, plain] using rest.2

end Text

/-! ### Keys -/

namespace KeyCase

/-- The mark by which a policy joins words. -/
def mark? : KeyCase → Option Char
  | kebab => some '-'
  | snake => some '_'
  | preserve | camel | pascal => none

theorem apply_of_mark {case : KeyCase} {mark : Char} (h : case.mark? = some mark) (name : String) :
    case.apply name
      = String.ofList (List.intercalate [mark] ((Text.words name.toList).map Text.lowerWord)) := by
  cases case with
  | kebab | snake => obtain rfl := Option.some.inj h; rfl
  | preserve | camel | pascal => cases h

/-- A mark is no letter and no number. -/
theorem isAlphanumeric_mark {case : KeyCase} {mark : Char} (h : case.mark? = some mark) :
    Text.isAlphanumeric mark = false := by
  cases case with
  | kebab | snake => obtain rfl := Option.some.inj h; decide
  | preserve | camel | pascal => cases h

/-- **A key of an ASCII name is a key of itself**, unless the policy runs words together. -/
theorem apply_apply {case : KeyCase} (camel : case ≠ .camel) (pascal : case ≠ .pascal)
    {name : String} (ascii : ∀ c ∈ name.toList, c.toNat < 128) :
    case.apply (case.apply name) = case.apply name := by
  cases joined : case.mark? with
  | none => cases case <;> simp_all [mark?]
  | some mark =>
    have plain : ∀ w ∈ (Text.words name.toList).map Text.lowerWord,
        w ≠ [] ∧ ∀ c ∈ w, Text.Plain c := by
      rw [List.forall_mem_map]
      intro w hw
      obtain ⟨ne, letters⟩ := Text.mem_words hw
      exact Text.plain_lowerWord ne fun c hc => ⟨ascii c (letters c hc).1, (letters c hc).2⟩
    rw [apply_of_mark joined, apply_of_mark joined, String.toList_ofList,
      Text.words_intercalate (isAlphanumeric_mark joined) plain]
    congr 2
    exact (List.map_congr_left fun w hw => Text.lowerWord_of_plain (plain w hw).2).trans
      (List.map_id' _)

end KeyCase

end ComponentTree
