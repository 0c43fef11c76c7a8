import Rpn.Bytes

/-! Decimal numerals: a number can be read back from its digits. -/

namespace Rpn

theorem isDigit_iff {byte : UInt8} :
    isDigit byte = true ↔ 48 ≤ byte.toNat ∧ byte.toNat ≤ 57 := by
  simp only [isDigit, Bool.and_eq_true, decide_eq_true_eq, UInt8.le_iff_toNat_le]
  exact Iff.rfl

/-- Digits are not blanks, so that a numeral is never split. -/
theorem isBlank_eq_false_of_isDigit {byte : UInt8}
    (digit : isDigit byte = true) : isBlank byte = false := by
  obtain ⟨low, _⟩ := isDigit_iff.mp digit
  have different : ∀ other : UInt8, other.toNat < 48 → byte ≠ other := by
    intro other small equal
    subst equal
    omega
  simp [isBlank, different Ascii.space (by decide), different Ascii.tab (by decide),
    different Ascii.newline (by decide), different Ascii.carriageReturn (by decide)]

namespace Bytes

private theorem toNat_toUInt8_digitChar {digit : Nat} (small : digit < 10) :
    (Nat.digitChar digit).toUInt8.toNat = 48 + digit := by
  have code := Nat.toNat_digitChar_of_lt_ten small
  have narrow : (Nat.digitChar digit).toUInt8.toNat =
      (Nat.digitChar digit).toNat % 256 := rfl
  omega

private theorem digitValue_digitChar {digit : Nat} (small : digit < 10) :
    digitValue (Nat.digitChar digit).toUInt8 = digit := by
  rw [digitValue, toNat_toUInt8_digitChar small]
  exact Nat.add_sub_cancel_left 48 digit

/-- The last digit comes off the end. -/
private theorem ofNat_eq (number : Nat) :
    ofNat number =
      if number < 10 then [(Nat.digitChar number).toUInt8]
      else ofNat (number / 10) ++ [(Nat.digitChar (number % 10)).toUInt8] := by
  unfold ofNat
  rw [Nat.toDigits_eq_if (by omega)]
  split <;> simp

theorem ofNat_ne_nil (number : Nat) : ofNat number ≠ [] := by
  simp [ofNat]

theorem isDigit_of_mem_ofNat {number : Nat} {byte : UInt8}
    (member : byte ∈ ofNat number) : isDigit byte = true := by
  induction number using Nat.strongRecOn with
  | ind number induction =>
      rw [ofNat_eq] at member
      rw [isDigit_iff]
      split at member
      · next small =>
          have equal := List.mem_singleton.mp member
          rw [equal, toNat_toUInt8_digitChar small]
          omega
      · next large =>
          rcases List.mem_append.mp member with member | member
          · exact isDigit_iff.mp (induction (number / 10) (by omega) member)
          · have equal := List.mem_singleton.mp member
            have small : number % 10 < 10 := Nat.mod_lt _ (by omega)
            rw [equal, toNat_toUInt8_digitChar small]
            omega

theorem all_isDigit_ofNat (number : Nat) : (ofNat number).all isDigit = true :=
  List.all_eq_true.mpr fun _ member => isDigit_of_mem_ofNat member

@[simp] theorem valueOf_ofNat (number : Nat) : valueOf (ofNat number) = number := by
  induction number using Nat.strongRecOn with
  | ind number induction =>
      rw [ofNat_eq]
      split
      · next small =>
          simp [valueOf, digitValue_digitChar small]
      · next large =>
          have earlier := induction (number / 10) (by omega)
          have small : number % 10 < 10 := Nat.mod_lt _ (by omega)
          unfold valueOf at earlier ⊢
          rw [List.foldl_append, earlier, List.foldl_cons, List.foldl_nil,
            digitValue_digitChar small]
          omega

theorem ofNat_injective {left right : Nat} (equal : ofNat left = ofNat right) :
    left = right := by
  rw [← valueOf_ofNat left, equal, valueOf_ofNat]

@[simp] theorem toNat?_ofNat (number : Nat) : toNat? (ofNat number) = some number := by
  simp [toNat?, ofNat_ne_nil, all_isDigit_ofNat]

end Bytes

end Rpn
