import ComponentTree.Json.Printer
import ComponentTree.Proofs.Decimal.Rounding
import Mathlib.Data.List.TakeWhile

/-!
The text of a number determines the number. The text of a floating-point number is read as a
decimal; that decimal is the shortest one of the number, so it rounds to one number only.

* `Written` — the forms that the text of a number without a sign can have, and what it stands for;
  `textValue` reads that off the text, so a text stands for one value only.
* `written_layout` — wherever it puts the point, a layout stands for its digits.
* `written_magnitudeChars` — what is written of a magnitude stands for its shortest decimal.
* `floatChars_injective`, `Number.chars_injective` — different numbers have different texts.
* `Number.isNumberChar_of_mem`, `Number.exists_chars_eq_cons` — the characters of a number, and the
  first of them.
-/

namespace ComponentTree

namespace Decimal

/-! ### Reading decimal text -/

/-- Cuts a text at the first mark, which is left out. -/
def cut (mark : Char) (cs : List Char) : List Char × List Char :=
  (cs.takeWhile (· ≠ mark), (cs.dropWhile (· ≠ mark)).tail)

/-- The value of a text of decimal digits. -/
def digitsValue (cs : List Char) : Nat :=
  Nat.ofDigitChars 10 cs 0

/-- The value of an integer's text. -/
def intValue : List Char → Int
  | '-' :: cs => -(digitsValue cs)
  | cs => digitsValue cs

/-- The value of the text of a number without a sign: digits with a point among them, and maybe an
exponent. -/
def textValue (cs : List Char) : ℚ :=
  let (significand, exponent) := cut 'e' cs
  let (whole, fraction) := cut '.' significand
  digitsValue (whole ++ fraction) * 10 ^ (intValue exponent - fraction.length)

theorem cut_append {mark : Char} {before : List Char} (absent : mark ∉ before)
    (after : List Char) : cut mark (before ++ mark :: after) = (before, after) := by
  have other : ∀ c ∈ before, decide (c ≠ mark) = true := by
    intro c hc
    exact decide_eq_true fun same => absent (same ▸ hc)
  rw [cut, List.takeWhile_append_of_pos other, List.dropWhile_append_of_pos other,
    List.takeWhile_cons_of_neg (by simp), List.dropWhile_cons_of_neg (by simp), List.append_nil]
  rfl

theorem cut_of_not_mem {mark : Char} {cs : List Char} (absent : mark ∉ cs) :
    cut mark cs = (cs, []) := by
  have other : ∀ c ∈ cs, decide (c ≠ mark) = true := by
    intro c hc
    exact decide_eq_true fun same => absent (same ▸ hc)
  rw [cut, List.takeWhile_eq_self_iff.mpr other, List.dropWhile_eq_nil_iff.mpr other]
  rfl

/-- No character of an integer's text other than a digit. -/
theorem ne_of_isDigit {c d : Char} (digit : c.isDigit = true) (other : d.isDigit = false) :
    c ≠ d := by
  rintro rfl
  rw [digit] at other
  exact nomatch other

theorem not_mem_of_isDigit {d : Char} (other : d.isDigit = false) {cs : List Char}
    (digits : ∀ c ∈ cs, c.isDigit = true) : d ∉ cs :=
  fun member => ne_of_isDigit (digits d member) other rfl

theorem isDigit_of_mem_digitChars {n : Nat} {c : Char} (member : c ∈ digitChars n) :
    c.isDigit = true :=
  Nat.isDigit_of_mem_toDigits (by decide) (by decide) member

theorem digitsValue_digitChars (n : Nat) : digitsValue (digitChars n) = n :=
  Nat.ofDigitChars_ten_toDigits

theorem intValue_of_isDigit {cs : List Char} (digits : ∀ c ∈ cs, c.isDigit = true) :
    intValue cs = digitsValue cs := by
  unfold intValue
  split
  · exact absurd (digits '-' List.mem_cons_self) (by decide)
  · rfl

theorem intValue_intChars (n : Int) : intValue (intChars n) = n := by
  cases n with
  | ofNat n =>
    rw [intChars, intValue_of_isDigit fun c => isDigit_of_mem_digitChars, digitsValue_digitChars]
    rfl
  | negSucc n =>
    rw [intChars, intValue, digitsValue_digitChars]
    rfl

/-- The text of an integer determines the integer. -/
theorem intChars_injective : Function.Injective intChars := by
  intro m n same
  rw [← intValue_intChars m, same, intValue_intChars]

/-! ### Digits -/

theorem digitsValue_append_zeros (ds : List Char) (k : Nat) :
    digitsValue (ds ++ List.replicate k '0') = digitsValue ds * 10 ^ k := by
  induction k with
  | zero => simp
  | succ k ih =>
    rw [List.replicate_succ', ← List.append_assoc, digitsValue, Nat.ofDigitChars_append,
      ← digitsValue, ih, Nat.pow_succ, ← Nat.mul_assoc, Nat.mul_comm _ 10]
    rfl

theorem digitsValue_zeros_append (k : Nat) (ds : List Char) :
    digitsValue (List.replicate k '0' ++ ds) = digitsValue ds := by
  have zeros : Nat.ofDigitChars 10 (List.replicate k '0') 0 = 0 := by
    have := digitsValue_append_zeros [] k
    rwa [List.nil_append, digitsValue, digitsValue, Nat.ofDigitChars_nil, Nat.zero_mul] at this
  rw [digitsValue, Nat.ofDigitChars_append, zeros, digitsValue]

theorem isDigit_of_mem_zeros {k : Nat} {c : Char} (member : c ∈ List.replicate k '0') :
    c.isDigit = true := by
  rw [List.eq_of_mem_replicate member]
  rfl

/-! ### Texts by their parts -/

/-- A text is that of a number without a sign, and stands for a value. -/
inductive Written : List Char → ℚ → Prop
  /-- Digits around a point. -/
  | positional {whole fraction : List Char} (ne : whole ≠ [])
      (hwhole : ∀ c ∈ whole, c.isDigit = true) (hfraction : ∀ c ∈ fraction, c.isDigit = true) :
      Written (whole ++ '.' :: fraction)
        (digitsValue (whole ++ fraction) * 10 ^ (-(fraction.length : Int)))
  /-- Digits and an exponent. -/
  | scientific {whole : List Char} (ne : whole ≠ []) (hwhole : ∀ c ∈ whole, c.isDigit = true)
      (exponent : Int) :
      Written (whole ++ 'e' :: intChars exponent) (digitsValue whole * 10 ^ exponent)
  /-- Digits around a point, and an exponent. -/
  | scientificPoint {whole fraction : List Char} (ne : whole ≠ [])
      (hwhole : ∀ c ∈ whole, c.isDigit = true) (hfraction : ∀ c ∈ fraction, c.isDigit = true)
      (exponent : Int) :
      Written (whole ++ '.' :: fraction ++ 'e' :: intChars exponent)
        (digitsValue (whole ++ fraction) * 10 ^ (exponent - (fraction.length : Int)))

theorem mark_not_mem {whole fraction : List Char} (hwhole : ∀ c ∈ whole, c.isDigit = true)
    (hfraction : ∀ c ∈ fraction, c.isDigit = true) : 'e' ∉ whole ++ '.' :: fraction := by
  have first := not_mem_of_isDigit (show 'e'.isDigit = false from rfl) hwhole
  have second := not_mem_of_isDigit (show 'e'.isDigit = false from rfl) hfraction
  simp [first, second]

/-- A text is read as the value that it stands for. -/
theorem Written.textValue_eq {cs : List Char} {q : ℚ} (written : Written cs q) :
    textValue cs = q := by
  cases written with
  | positional _ hwhole hfraction =>
    have point := not_mem_of_isDigit (show '.'.isDigit = false from rfl) hwhole
    simp [textValue, cut_of_not_mem (mark_not_mem hwhole hfraction), cut_append point, intValue,
      digitsValue]
  | scientific _ hwhole exponent =>
    have point := not_mem_of_isDigit (show '.'.isDigit = false from rfl) hwhole
    have mark := not_mem_of_isDigit (show 'e'.isDigit = false from rfl) hwhole
    simp [textValue, cut_append mark, cut_of_not_mem point, intValue_intChars]
  | scientificPoint _ hwhole hfraction exponent =>
    have point := not_mem_of_isDigit (show '.'.isDigit = false from rfl) hwhole
    simp only [textValue, cut_append (mark_not_mem hwhole hfraction), cut_append point,
      intValue_intChars]

/-- **A layout stands for its digits**, wherever it puts the point. -/
theorem written_layout {digits : List Char} (ne : digits ≠ [])
    (hdigits : ∀ c ∈ digits, c.isDigit = true) (point : Int) :
    Written (layout digits point) (digitsValue digits * 10 ^ (point - (digits.length : Int))) := by
  unfold layout
  dsimp only
  split
  · -- all digits before the point, and zeros
    next fits =>
    obtain ⟨k, hk⟩ : ∃ k : Nat, point - (digits.length : Int) = k :=
      ⟨_, (Int.toNat_of_nonneg (by omega)).symm⟩
    have value : (digitsValue (digits ++ List.replicate k '0' ++ ['0']) : ℚ) * 10 ^ (-1 : Int)
        = digitsValue digits * 10 ^ (k : Int) := by
      rw [List.append_assoc, ← List.replicate_succ', digitsValue_append_zeros]
      push_cast
      rw [pow_succ]
      simp [mul_assoc]
    rw [hk, Int.toNat_natCast, ← value]
    exact .positional (by simp [ne])
      (List.forall_mem_append.mpr ⟨hdigits, fun c => isDigit_of_mem_zeros⟩)
      (List.forall_mem_singleton.mpr rfl)
  · split
    · -- the point among the digits
      next inside =>
      obtain ⟨k, rfl⟩ : ∃ k : Nat, point = k := ⟨_, (Int.toNat_of_nonneg (by omega)).symm⟩
      have length : (k : Int) - digits.length = -((digits.drop k).length : Int) := by
        rw [List.length_drop]
        omega
      have first : digits.take k ≠ [] := by
        simp only [ne_eq, List.take_eq_nil_iff, ne, or_false]
        omega
      rw [Int.toNat_natCast, length]
      nth_rewrite 3 [← List.take_append_drop k digits]
      exact .positional first (fun c hc => hdigits c (List.mem_of_mem_take hc))
        fun c hc => hdigits c (List.mem_of_mem_drop hc)
    · split
      · -- zeros behind the point
        next small =>
        obtain ⟨k, hk⟩ : ∃ k : Nat, -point = k := ⟨_, (Int.toNat_of_nonneg (by omega)).symm⟩
        have value : digitsValue ('0' :: (List.replicate k '0' ++ digits)) = digitsValue digits := by
          rw [← List.cons_append, ← List.replicate_succ, digitsValue_zeros_append]
        have length : point - (digits.length : Int)
            = -((List.replicate k '0' ++ digits).length : Int) := by
          rw [List.length_append, List.length_replicate]
          push_cast
          omega
        rw [hk, Int.toNat_natCast, ← value, length]
        exact Written.positional (List.cons_ne_nil '0' []) (List.forall_mem_singleton.mpr rfl)
          (List.forall_mem_append.mpr ⟨fun c => isDigit_of_mem_zeros, hdigits⟩)
      · -- one digit before the point, and an exponent
        cases digits with
        | nil => exact absurd rfl ne
        | cons first rest =>
          cases rest with
          | nil => exact .scientific ne hdigits (point - 1)
          | cons second rest =>
            obtain ⟨hfirst, hrest⟩ := List.forall_mem_cons.mp hdigits
            have length : point - ((first :: second :: rest).length : Int)
                = point - 1 - ((second :: rest).length : Int) := by
              rw [List.length_cons]
              push_cast
              ring
            rw [length]
            exact Written.scientificPoint (List.cons_ne_nil first [])
              (List.forall_mem_singleton.mpr hfirst) hrest (point - 1)

/-! ### Characters of numbers -/

/-- A character that occurs in the text of a number. -/
def isNumberChar (c : Char) : Bool :=
  c.isDigit || c == '-' || c == '.' || c == 'e'

theorem isNumberChar_of_isDigit {c : Char} (digit : c.isDigit = true) : isNumberChar c = true := by
  simp [isNumberChar, digit]

theorem isDigit_or_of_mem_intChars {n : Int} {c : Char} (member : c ∈ intChars n) :
    c.isDigit = true ∨ c = '-' := by
  cases n with
  | ofNat n => exact .inl (isDigit_of_mem_digitChars member)
  | negSucc n =>
    rcases List.mem_cons.mp member with rfl | member
    · exact .inr rfl
    · exact .inl (isDigit_of_mem_digitChars member)

theorem isNumberChar_of_mem_intChars {n : Int} {c : Char} (member : c ∈ intChars n) :
    isNumberChar c = true := by
  rcases isDigit_or_of_mem_intChars member with digit | rfl
  · exact isNumberChar_of_isDigit digit
  · rfl

namespace Written

variable {cs : List Char} {q : ℚ} (written : Written cs q)

include written

theorem exists_eq_cons : ∃ c rest, cs = c :: rest ∧ c.isDigit = true := by
  have first : ∀ {whole more : List Char}, whole ≠ [] → (∀ c ∈ whole, c.isDigit = true) →
      ∃ c rest, whole ++ more = c :: rest ∧ c.isDigit = true := by
    intro whole more ne digits
    obtain ⟨c, rest, rfl⟩ := List.exists_cons_of_ne_nil ne
    exact ⟨c, rest ++ more, rfl, digits c List.mem_cons_self⟩
  cases written with
  | positional ne hwhole _ => exact first ne hwhole
  | scientific ne hwhole _ => exact first ne hwhole
  | scientificPoint ne hwhole _ _ =>
    rw [List.append_assoc]
    exact first ne hwhole

/-- There is a point or an exponent. -/
theorem point_or_mark : '.' ∈ cs ∨ 'e' ∈ cs := by
  cases written with
  | positional => simp
  | scientific => simp
  | scientificPoint => simp

theorem isNumberChar_of_mem {c : Char} (member : c ∈ cs) : isNumberChar c = true := by
  have exponentChar : ∀ {n : Int}, c ∈ 'e' :: intChars n → isNumberChar c = true := by
    intro n member
    rcases List.mem_cons.mp member with rfl | member
    · rfl
    · exact isNumberChar_of_mem_intChars member
  have significandChar : ∀ {whole fraction : List Char}, (∀ c ∈ whole, c.isDigit = true) →
      (∀ c ∈ fraction, c.isDigit = true) → c ∈ whole ++ '.' :: fraction →
      isNumberChar c = true := by
    intro whole fraction hwhole hfraction member
    rcases List.mem_append.mp member with member | member
    · exact isNumberChar_of_isDigit (hwhole c member)
    · rcases List.mem_cons.mp member with rfl | member
      · rfl
      · exact isNumberChar_of_isDigit (hfraction c member)
  cases written with
  | positional _ hwhole hfraction => exact significandChar hwhole hfraction member
  | scientific _ hwhole _ =>
    rcases List.mem_append.mp member with member | member
    · exact isNumberChar_of_isDigit (hwhole c member)
    · exact exponentChar member
  | scientificPoint _ hwhole hfraction _ =>
    rcases List.mem_append.mp member with member | member
    · exact significandChar hwhole hfraction member
    · exact exponentChar member

end Written

/-! ### Texts of floating-point numbers -/

/-- The text of a floating-point number without its sign. -/
def magnitudeChars (x : Binary64) : List Char :=
  if x.isZero then ['0', '.', '0']
  else
    let found := shortest x
    let all := digitChars found.digits
    layout (all.reverse.dropWhile (· = '0')).reverse (all.length + found.exponent)

theorem floatChars_eq (x : Binary64) :
    floatChars x = (if x.negative then ['-'] else []) ++ magnitudeChars x := by
  unfold floatChars magnitudeChars
  cases x.isZero <;> rfl

/-- Digits without the zeros at their end, and these zeros. -/
theorem exists_zeros (ds : List Char) :
    ∃ k, ds = (ds.reverse.dropWhile (· = '0')).reverse ++ List.replicate k '0' := by
  have zeros : ds.reverse.takeWhile (· = '0')
      = List.replicate (ds.reverse.takeWhile (· = '0')).length '0' := by
    refine List.eq_replicate_iff.mpr ⟨rfl, fun c hc => ?_⟩
    simpa using List.mem_takeWhile_imp hc
  refine ⟨(ds.reverse.takeWhile (· = '0')).length, ?_⟩
  have split := congrArg List.reverse
    (List.takeWhile_append_dropWhile (p := (· = '0')) (l := ds.reverse))
  rw [List.reverse_append, List.reverse_reverse, zeros, List.reverse_replicate] at split
  exact split.symm

variable {x y : Binary64}

/-- **A magnitude is written as its shortest decimal.** -/
theorem written_magnitudeChars (nonzero : x.mantissa ≠ 0) :
    Written (magnitudeChars x) (shortest x).value := by
  have isZero : x.isZero = false := by simpa [Binary64.isZero] using nonzero
  obtain ⟨k, split⟩ := exists_zeros (digitChars (shortest x).digits)
  have digitsEq := digitsValue_digitChars (shortest x).digits
  have length := congrArg List.length split
  have isDigit : ∀ c ∈ digitChars (shortest x).digits, c.isDigit = true :=
    fun c => isDigit_of_mem_digitChars
  simp only [magnitudeChars, isZero, Bool.false_eq_true, if_false]
  generalize ((digitChars (shortest x).digits).reverse.dropWhile (· = '0')).reverse = digits
    at split length ⊢
  rw [split] at isDigit digitsEq
  rw [digitsValue_append_zeros] at digitsEq
  rw [List.length_append, List.length_replicate] at length
  have ne : digits ≠ [] := by
    -- Without a digit the decimal would be zero, which does not round to the number.
    rintro rfl
    have positive := (rounds_shortest nonzero).pos nonzero
    rw [Digits.value, ← digitsEq] at positive
    simp [digitsValue] at positive
  have value : digitsValue digits * (10 : ℚ) ^ (((digitChars (shortest x).digits).length : Int)
      + (shortest x).exponent - digits.length) = (shortest x).value := by
    have exponent : ((digitChars (shortest x).digits).length : Int) + (shortest x).exponent
        - digits.length = k + (shortest x).exponent := by
      rw [length]
      push_cast
      ring
    rw [exponent, Digits.value, ← digitsEq, zpow_add₀ (by norm_num), zpow_natCast]
    push_cast
    ring
  rw [← value]
  exact written_layout ne (fun c hc => isDigit c (List.mem_append_left _ hc)) _

theorem written_magnitudeChars_zero (zero : x.mantissa = 0) : Written (magnitudeChars x) 0 := by
  have isZero : x.isZero = true := by simpa [Binary64.isZero] using zero
  have zeros : ∀ c ∈ ['0'], c.isDigit = true := List.forall_mem_singleton.mpr rfl
  have written : Written ['0', '.', '0'] _ :=
    Written.positional (List.cons_ne_nil '0' []) zeros zeros
  have value : (digitsValue (['0'] ++ ['0']) : ℚ) * 10 ^ (-((['0'].length : Nat) : Int)) = 0 := by
    simp [digitsValue, Nat.ofDigitChars]
  rw [magnitudeChars, if_pos isZero, ← value]
  exact written

theorem exists_written_magnitudeChars (x : Binary64) : ∃ q, Written (magnitudeChars x) q := by
  by_cases zero : x.mantissa = 0
  · exact ⟨0, written_magnitudeChars_zero zero⟩
  · exact ⟨_, written_magnitudeChars zero⟩

/-- Two magnitudes with one text are the same. -/
theorem eq_of_magnitudeChars (same : magnitudeChars x = magnitudeChars y) :
    x.mantissa = y.mantissa ∧ x.exponent = y.exponent := by
  have alike : ∀ {q q' : ℚ}, Written (magnitudeChars x) q → Written (magnitudeChars y) q' →
      q = q' := by
    intro q q' written written'
    rw [← written.textValue_eq, same, written'.textValue_eq]
  by_cases hx : x.mantissa = 0 <;> by_cases hy : y.mantissa = 0
  · obtain ⟨-, -, -, zeroX⟩ := x.canonical
    obtain ⟨-, -, -, zeroY⟩ := y.canonical
    have full : ¬twoPow 52 ≤ 0 := by decide
    rw [hx] at zeroX
    rw [hy] at zeroY
    exact ⟨hx.trans hy.symm, (zeroX.resolve_left full).trans (zeroY.resolve_left full).symm⟩
  · have value := alike (written_magnitudeChars_zero hx) (written_magnitudeChars hy)
    exact absurd value ((rounds_shortest hy).pos hy).ne
  · have value := alike (written_magnitudeChars hx) (written_magnitudeChars_zero hy)
    exact absurd value ((rounds_shortest hx).pos hx).ne'
  · have value := alike (written_magnitudeChars hx) (written_magnitudeChars hy)
    exact (rounds_shortest hx).unique (value ▸ rounds_shortest hy)

/-- **The text of a floating-point number determines the number**, its sign included. -/
theorem floatChars_injective : Function.Injective floatChars := by
  intro x y same
  obtain ⟨q, written⟩ := exists_written_magnitudeChars x
  obtain ⟨q', written'⟩ := exists_written_magnitudeChars y
  obtain ⟨c, rest, chars, digit⟩ := written.exists_eq_cons
  obtain ⟨c', rest', chars', digit'⟩ := written'.exists_eq_cons
  have signed : ('-' : Char).isDigit = false := rfl
  rw [floatChars_eq, floatChars_eq] at same
  have equal : x.negative = y.negative ∧ magnitudeChars x = magnitudeChars y := by
    cases hx : x.negative <;> cases hy : y.negative
    · simpa [hx, hy] using same
    · simp only [hx, hy, chars] at same
      exact absurd (List.cons.inj same).1 (ne_of_isDigit digit signed)
    · simp only [hx, hy, chars'] at same
      exact absurd (List.cons.inj same).1.symm (ne_of_isDigit digit' signed)
    · simpa [hx, hy] using same
  obtain ⟨mantissa, exponent⟩ := eq_of_magnitudeChars equal.2
  obtain ⟨negative, m, e, canonical⟩ := x
  obtain ⟨negative', m', e', canonical'⟩ := y
  obtain rfl : negative = negative' := equal.1
  obtain rfl : m = m' := mantissa
  obtain rfl : e = e' := exponent
  rfl

end Decimal

/-! ### Texts of numbers -/

namespace Number

open Decimal

/-- The text of a number begins with a digit or a minus sign. -/
theorem exists_chars_eq_cons (n : Number) :
    ∃ c rest, n.chars = c :: rest ∧ (c.isDigit = true ∨ c = '-') := by
  cases n with
  | integer n =>
    have ne : intChars n ≠ [] := by
      cases n with
      | ofNat n => exact Nat.toDigits_ne_nil
      | negSucc n => exact List.cons_ne_nil _ _
    obtain ⟨c, rest, chars⟩ := List.exists_cons_of_ne_nil ne
    exact ⟨c, rest, chars, isDigit_or_of_mem_intChars (chars ▸ List.mem_cons_self)⟩
  | float x =>
    obtain ⟨q, written⟩ := exists_written_magnitudeChars x
    obtain ⟨c, rest, chars, digit⟩ := written.exists_eq_cons
    rw [Number.chars, floatChars_eq]
    cases x.negative with
    | false => exact ⟨c, rest, chars, .inl digit⟩
    | true => exact ⟨'-', _, rfl, .inr rfl⟩

theorem isNumberChar_of_mem {n : Number} {c : Char} (member : c ∈ n.chars) :
    isNumberChar c = true := by
  cases n with
  | integer n => exact isNumberChar_of_mem_intChars member
  | float x =>
    obtain ⟨q, written⟩ := exists_written_magnitudeChars x
    rw [Number.chars, floatChars_eq] at member
    rcases List.mem_append.mp member with sign | member
    · cases hx : x.negative with
      | false => simp [hx] at sign
      | true =>
        rw [hx, if_pos rfl, List.mem_singleton] at sign
        rw [sign]
        rfl
    · exact written.isNumberChar_of_mem member

/-- Integers have neither a point nor an exponent, floating-point numbers have one of them. -/
theorem intChars_ne_floatChars (n : Int) (x : Binary64) : intChars n ≠ floatChars x := by
  intro same
  obtain ⟨q, written⟩ := exists_written_magnitudeChars x
  have absent : ∀ d : Char, d.isDigit = false → d ≠ '-' → d ∉ intChars n := by
    intro d other sign member
    rcases isDigit_or_of_mem_intChars member with digit | minus
    · exact ne_of_isDigit digit other rfl
    · exact sign minus
  rw [same, floatChars_eq] at absent
  rcases written.point_or_mark with point | mark
  · exact absent '.' rfl (by decide) (List.mem_append_right _ point)
  · exact absent 'e' rfl (by decide) (List.mem_append_right _ mark)

/-- **The text of a number determines the number.** -/
theorem chars_injective : Function.Injective Number.chars := by
  intro m n same
  cases m with
  | integer m =>
    cases n with
    | integer n => rw [intChars_injective same]
    | float y => exact absurd same (intChars_ne_floatChars m y)
  | float x =>
    cases n with
    | integer n => exact absurd same.symm (intChars_ne_floatChars n x)
    | float y => rw [floatChars_injective same]

end Number

end ComponentTree
