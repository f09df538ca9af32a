import PlanReferee.Json.Text

/-! JSON strings as they are written are read back, whatever their characters. -/

namespace PlanReferee.Json

theorem hexDigit?_hexChar : ∀ n, n < 16 → hexDigit? (hexChar n) = some n := by decide

/-- Control characters have codes of two digits. -/
theorem hexCode_control {c : Char} (control : isControl c = true) (rest : List Char) :
    hexCode ('0' :: '0' :: hexChar (c.toNat / 16) :: hexChar (c.toNat % 16) :: rest) =
      .ok (c.toNat, rest) := by
  have small : c.toNat < 0x20 := of_decide_eq_true control
  have zero : hexDigit? '0' = some 0 := rfl
  have high := hexDigit?_hexChar (c.toNat / 16) (by omega)
  have low := hexDigit?_hexChar (c.toNat % 16) (Nat.mod_lt _ (by decide))
  have joined : ((0 * 16 + 0) * 16 + c.toNat / 16) * 16 + c.toNat % 16 = c.toNat := by omega
  simp only [hexCode, zero, high, low, joined]

theorem escape_control {c : Char} (control : isControl c = true) (rest : List Char) :
    escape ('u' :: '0' :: '0' :: hexChar (c.toNat / 16) :: hexChar (c.toNat % 16) :: rest) =
      .ok (c, rest) := by
  have small : c.toNat < 0x20 := of_decide_eq_true control
  have notLow : isLowHalf c.toNat = false := by simp [isLowHalf]; omega
  have notHigh : isHighHalf c.toNat = false := by simp [isHighHalf]; omega
  simp only [escape, hexCode_control control, notLow, notHigh, Char.ofNat_toNat]
  rfl

/-! One step of reading. -/

theorem chars_quote (rest : List Char) : chars ('"' :: rest) = .ok ([], rest) := by
  rw [chars]

theorem chars_escape {c : Char} {cs rest : List Char} (escaped : escape cs = .ok (c, rest)) :
    chars ('\\' :: cs) = (chars rest).map fun (read, rest) => (c :: read, rest) := by
  rw [chars]
  split
  · rename_i failed
    cases escaped.symm.trans failed
  · rename_i found
    cases escaped.symm.trans found
    rfl

theorem chars_plain {c : Char} (quote : c ≠ '"') (backslash : c ≠ '\\')
    (visible : isControl c = false) (cs : List Char) :
    chars (c :: cs) = (chars cs).map fun (read, rest) => (c :: read, rest) := by
  rw [chars]
  · simp [visible]
  · exact quote
  · exact backslash

theorem chars_writeChar (c : Char) (rest : List Char) :
    chars (writeChar c ++ rest) = (chars rest).map fun (read, rest) => (c :: read, rest) := by
  unfold writeChar
  split
  case h_8 quote backslash _ _ _ _ _ =>
    split
    case isTrue control => exact chars_escape (escape_control control rest)
    case isFalse visible =>
      exact chars_plain quote backslash (Bool.eq_false_iff.mpr visible) rest
  -- Each of the others has an escape of its own.
  all_goals exact chars_escape rfl

/-- All characters of a string come back, up to the quote that ends it. -/
theorem chars_write (cs rest : List Char) :
    chars (cs.flatMap writeChar ++ '"' :: rest) = .ok (cs, rest) := by
  induction cs with
  | nil => exact chars_quote rest
  | cons c cs ih =>
    rw [List.flatMap_cons, List.append_assoc, chars_writeChar, ih]
    rfl

end PlanReferee.Json
