import PlanReferee.Json.Codec

/-! JSON numbers as natural numbers are written: the digits are read to their end, none of them is a
needless zero, and a number of 64 bits is far from any overflow. -/

namespace PlanReferee.Json

/-- What may follow a number: nothing that would be read as a part of it. -/
def EndsNumber (rest : List Char) : Prop :=
  ∀ c more, rest = c :: more → c.isDigit = false ∧ c ≠ '.' ∧ c ≠ 'e' ∧ c ≠ 'E'

/-! The digits of a number. -/

theorem isDigit_of_mem_toDigits {n : Nat} {c : Char} (member : c ∈ Nat.toDigits 10 n) :
    c.isDigit = true :=
  Nat.isDigit_of_mem_toDigits (by decide) (by decide) member

theorem ofDigitChars_toDigits (n : Nat) : Nat.ofDigitChars 10 (Nat.toDigits 10 n) 0 = n :=
  Nat.ofDigitChars_toDigits (by decide) (by decide)

/-- Only zero itself is written with a zero in front. -/
theorem eq_nil_of_toDigits {n : Nat} {ds : List Char} (digits : Nat.toDigits 10 n = '0' :: ds) :
    ds = [] := by
  induction n using Nat.strongRecOn generalizing ds with
  | _ n ih =>
    rcases Nat.lt_or_ge n 10 with small | large
    · rw [Nat.toDigits_of_lt_base small] at digits
      exact (List.cons.inj digits).2.symm
    · rw [Nat.toDigits_of_base_le (by decide) large] at digits
      have some_digit : Nat.toDigits 10 (n / 10) ≠ [] := Nat.toDigits_ne_nil
      obtain ⟨c, more, front⟩ := List.exists_cons_of_ne_nil some_digit
      rw [front] at digits
      cases (List.cons.inj digits).1
      cases ih (n / 10) (by omega) front
      have none_left : n / 10 = 0 := by rw [← ofDigitChars_toDigits (n / 10), front]; rfl
      omega

theorem digitsOf_append {ds rest : List Char} (digits : ∀ c ∈ ds, c.isDigit = true)
    (ends : EndsNumber rest) : digitsOf (ds ++ rest) = ds ∧ afterDigits (ds ++ rest) = rest := by
  have stop : rest.takeWhile Char.isDigit = [] ∧ rest.dropWhile Char.isDigit = rest := by
    cases rest with
    | nil => exact ⟨rfl, rfl⟩
    | cons c more => simp [(ends c more rfl).1]
  rw [digitsOf, afterDigits, List.takeWhile_append_of_pos digits,
    List.dropWhile_append_of_pos digits, stop.1, stop.2, List.append_nil]
  exact ⟨rfl, rfl⟩

theorem someDigits_append {c : Char} {ds rest : List Char} (atEnd : Flaw)
    (digits : ∀ d ∈ c :: ds, d.isDigit = true) (ends : EndsNumber rest) :
    someDigits atEnd (c :: ds ++ rest) = .ok (c :: ds, rest) := by
  obtain ⟨taken, left⟩ := digitsOf_append digits ends
  rw [List.cons_append] at taken left ⊢
  rw [someDigits, if_pos (digits c List.mem_cons_self), taken, left]

theorem wholePart_toDigits (atEnd : Flaw) (n : Nat) {rest : List Char} (ends : EndsNumber rest) :
    wholePart atEnd (Nat.toDigits 10 n ++ rest) = .ok (Nat.toDigits 10 n, rest) := by
  have digits : ∀ c ∈ Nat.toDigits 10 n, c.isDigit = true := fun _ => isDigit_of_mem_toDigits
  cases written : Nat.toDigits 10 n with
  | nil => exact absurd written Nat.toDigits_ne_nil
  | cons c ds =>
    rw [written] at digits
    have taken := someDigits_append atEnd digits ends
    rw [List.cons_append] at taken ⊢
    unfold wholePart
    split
    · rename_i d more same
      cases (List.cons.inj same).1
      cases eq_nil_of_toDigits written
      have next := (ends d more (List.cons.inj same).2).1
      rw [List.nil_append] at taken ⊢
      simpa [next, ← (List.cons.inj same).2] using taken
    · exact taken

/-! A whole number. -/

theorem fractionPart_ends (atEnd : Flaw) (read : Numeral) {rest : List Char}
    (ends : EndsNumber rest) : fractionPart atEnd read rest = .ok (read, rest) := by
  unfold fractionPart
  split
  · exact absurd rfl (ends _ _ rfl).2.1
  · rfl

theorem exponentPart_ends (atEnd : Flaw) (read : Numeral) {rest : List Char}
    (ends : EndsNumber rest) : exponentPart atEnd read rest = .ok (read, rest) := by
  cases rest with
  | nil => rfl
  | cons c more =>
    have plain := (ends c more rfl).2.2
    rw [exponentPart, if_neg (not_or.mpr plain)]

theorem numeral_toDigits (atEnd : Flaw) (n : Nat) {rest : List Char} (ends : EndsNumber rest) :
    numeral atEnd (Nat.toDigits 10 n ++ rest) =
      .ok ({ negative := false, whole := Nat.toDigits 10 n }, rest) := by
  have unsigned : ∀ cs, Nat.toDigits 10 n ++ rest ≠ '-' :: cs := by
    intro cs same
    cases written : Nat.toDigits 10 n with
    | nil => exact Nat.toDigits_ne_nil written
    | cons c ds =>
      have digit : c.isDigit = true :=
        isDigit_of_mem_toDigits (n := n) (written ▸ List.mem_cons_self)
      rw [written, List.cons_append] at same
      rw [(List.cons.inj same).1] at digit
      exact absurd digit (by decide)
  unfold numeral
  split
  rename_i negative cs split_off
  split at split_off
  · rename_i more same
    exact absurd same (unsigned more)
  · cases split_off
    simp only [wholePart_toDigits atEnd n ends, fractionPart_ends atEnd _ ends,
      exponentPart_ends atEnd _ ends]

/-! Its value. -/

theorem le_ofDigitChars (ds : List Char) (n : Nat) : n ≤ Nat.ofDigitChars 10 ds n := by
  induction ds generalizing n with
  | nil => exact Nat.le_refl n
  | cons c ds ih =>
    rw [Nat.ofDigitChars_cons]
    exact Nat.le_trans (by omega) (ih _)

/-- Within 64 bits all digits are gathered. -/
theorem gather_eq (ds : List Char) (n count : Nat) (within : Nat.ofDigitChars 10 ds n ≤ maxWord) :
    gather n count ds = (Nat.ofDigitChars 10 ds n, count + ds.length) := by
  induction ds generalizing n count with
  | nil => rfl
  | cons c ds ih =>
    rw [Nat.ofDigitChars_cons] at within ⊢
    have next : 10 * n + (c.toNat - '0'.toNat) ≤ maxWord :=
      Nat.le_trans (le_ofDigitChars ds _) within
    rw [gather, if_pos next, ih _ _ within, List.length_cons, Nat.add_assoc, Nat.add_comm 1]

theorem roundToDouble_le (n : Nat) : roundToDouble n ≤ 2 * n + 1 := by
  have unit_le : Nat.pow 2 (n.log2 - 52) ≤ n + 1 := by
    cases n with
    | zero => exact Nat.le_refl 1
    | succ n =>
      have shorter : 2 ^ ((n + 1).log2 - 52) ≤ 2 ^ (n + 1).log2 :=
        Nat.pow_le_pow_right (by decide) (Nat.sub_le _ _)
      have within := Nat.log2_self_le (Nat.succ_ne_zero n)
      exact Nat.le_succ_of_le (Nat.le_trans shorter within)
  have whole_le : n / Nat.pow 2 (n.log2 - 52) * Nat.pow 2 (n.log2 - 52) ≤ n :=
    Nat.div_mul_le_self _ _
  unfold roundToDouble
  dsimp only
  split
  · rw [Nat.add_mul]
    omega
  · omega

theorem overflows_toDigits {n : Nat} (within : n ≤ maxWord) :
    Numeral.overflows { negative := false, whole := Nat.toDigits 10 n } = false := by
  have scaled : Numeral.scaled { negative := false, whole := Nat.toDigits 10 n } = (n, 0) := by
    have value := ofDigitChars_toDigits n
    have gathered := gather_eq (Nat.toDigits 10 n) 0 0 (value.symm ▸ within)
    simp [Numeral.scaled, gathered, gather]
  have one : roundToDouble (Nat.pow 10 (0 : Int).toNat) = 1 := by decide
  have finite : 2 * maxWord + 1 < firstInfinite := by decide +kernel
  have rounded := roundToDouble_le n
  have below : ¬ firstInfinite ≤ roundToDouble n * 1 := by omega
  simp only [Numeral.overflows, scaled, one, below]
  simp

/-- A number of 64 bits is read as itself. -/
theorem number_toDigits {n : Nat} (within : n ≤ maxWord) {rest : List Char}
    (ends : EndsNumber rest) : number (Nat.toDigits 10 n ++ rest) = .ok (some n, rest) := by
  have natural : Numeral.natural? { negative := false, whole := Nat.toDigits 10 n } = some n := by
    simp [Numeral.natural?, Nat.not_lt.mpr within]
  simp only [number, numeral_toDigits .ended n ends, overflows_toDigits within, natural]
  rfl

/-- A number beyond 64 bits is read as no natural number, if at all. -/
theorem number_beyond {n : Nat} (beyond : maxWord < n) {rest : List Char} (ends : EndsNumber rest)
    (k : Nat) (rest' : List Char) : number (Nat.toDigits 10 n ++ rest) ≠ .ok (some k, rest') := by
  have unnatural : Numeral.natural? { negative := false, whole := Nat.toDigits 10 n } = none := by
    simp [Numeral.natural?, beyond]
  simp only [number, numeral_toDigits .ended n ends, unnatural]
  split <;> simp

end PlanReferee.Json
