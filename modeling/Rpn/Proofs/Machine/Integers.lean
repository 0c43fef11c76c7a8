import Mathlib
import Rpn.Evaluation

/-! Integers in words, and the products that loops compute. -/

namespace Rpn.Evaluation

theorem isInteger64_iff {integer : Int} :
    isInteger64 integer = true ↔ -2 ^ 63 ≤ integer ∧ integer < 2 ^ 63 := by
  rw [isInteger64, Bool.and_eq_true_iff, decide_eq_true_iff, decide_eq_true_iff]
  unfold leastInteger greatestInteger
  omega

theorem isInteger64_toInt (word : Word) : isInteger64 word.toInt = true :=
  isInteger64_iff.mpr ⟨word.le_toInt, word.toInt_lt⟩

theorem toInt_ofInt {integer : Int} (fits : isInteger64 integer = true) :
    (BitVec.ofInt 64 integer).toInt = integer := by
  obtain ⟨lower, upper⟩ := isInteger64_iff.mp fits
  exact BitVec.toInt_ofInt_eq_self (by decide) lower upper

theorem smulOverflow_eq (left right : Word) :
    BitVec.smulOverflow left right = !isInteger64 (left.toInt * right.toInt) := by
  have fits := @isInteger64_iff (left.toInt * right.toInt)
  rw [Bool.eq_iff_iff, Bool.not_eq_true', ← Bool.not_eq_true, fits]
  simp only [BitVec.smulOverflow, Bool.or_eq_true, decide_eq_true_iff]
  omega

theorem ofInt_mul (left right : Word) :
    left * right = BitVec.ofInt 64 (left.toInt * right.toInt) := by
  rw [BitVec.ofInt_mul, BitVec.ofInt_toInt, BitVec.ofInt_toInt]

/-- A word after its sign is the same integer. -/
theorem toInt_signExtended (word : Word) :
    ((if word.msb then BitVec.allOnes 64 else 0) ++ word).toInt = word.toInt := by
  have extended := BitVec.toInt_signExtend_of_le (v := 128) (x := word) (by decide)
  rw [BitVec.signExtend_eq_append_of_le (by decide)] at extended
  exact extended

theorem sub_beq_zero (left right : Word) : (left - right == 0) = decide (left = right) := by
  have same : left - right = 0 ↔ left = right := by
    rw [BitVec.sub_eq_iff_eq_add]
    simp
  rw [Bool.eq_iff_iff, beq_iff_eq, decide_eq_true_iff, same]

theorem ofInt_sub_one (word : Word) : word - 1 = BitVec.ofInt 64 (word.toInt - 1) := by
  rw [Int.sub_eq_add_neg, BitVec.ofInt_add, BitVec.ofInt_toInt, BitVec.sub_eq_add_neg]
  rfl

/-- A counter goes down by one. -/
theorem toInt_sub_one {word : Word} {count : Nat} (value : word.toInt = count + 1) :
    (word - 1).toInt = count := by
  have upper := (isInteger64_iff.mp (isInteger64_toInt word)).2
  rw [ofInt_sub_one, value, Int.add_sub_cancel]
  exact toInt_ofInt (isInteger64_iff.mpr (by omega))

theorem beq_zero (word : Word) : (word == 0) = decide (word.toInt = 0) := by
  rw [Bool.eq_iff_iff, beq_iff_eq, decide_eq_true_iff, ← BitVec.toInt_inj]
  rfl

theorem sub_one_beq_zero {word : Word} {count : Nat} (value : word.toInt = count + 1) :
    (word - 1 == 0) = decide (count = 0) := by
  rw [beq_zero, toInt_sub_one value, decide_eq_decide]
  exact Int.natCast_eq_zero

/-! Quotients and remainders. -/

/-- Only the least integer has a quotient that does not fit. -/
theorem isInteger64_tdiv {dividend : Word} (notLeast : dividend.toInt ≠ leastInteger)
    (divisor : Int) : isInteger64 (dividend.toInt.tdiv divisor) = true := by
  have bounds := isInteger64_iff.mp (isInteger64_toInt dividend)
  have smaller := Int.natAbs_tdiv_le_natAbs dividend.toInt divisor
  unfold leastInteger at notLeast
  exact isInteger64_iff.mpr (by omega)

theorem isInteger64_tmod {dividend : Word} (notLeast : dividend.toInt ≠ leastInteger)
    (divisor : Int) : isInteger64 (dividend.toInt.tmod divisor) = true := by
  have bounds := isInteger64_iff.mp (isInteger64_toInt dividend)
  have smaller : (dividend.toInt.tmod divisor).natAbs ≤ dividend.toInt.natAbs := by
    rw [Int.natAbs_tmod]
    exact Nat.mod_le _ _
  unfold leastInteger at notLeast
  exact isInteger64_iff.mpr (by omega)

/-! Products with a counter that goes down to zero. -/

/-- Multiply by the factor of every count, as long as the products have 64 bits. -/
def multiplyDown (factor : Nat → Int) : Nat → Int → Except Failure Int
  | 0, product => .ok product
  | count + 1, product =>
      if isInteger64 (product * factor count) then
        multiplyDown factor count (product * factor count)
      else .error .overflow

/-- The outcome of a computation that must have 64 bits. -/
def checked (integer : Int) : Except Failure Int :=
  if isInteger64 integer then .ok integer else .error .overflow

theorem multiplyDown_succ (factor : Nat → Int) (count : Nat) (product : Int) :
    multiplyDown factor (count + 1) product =
      (checked (product * factor count) >>= multiplyDown factor count) := by
  unfold checked
  rw [multiplyDown]
  split <;> rfl

theorem ofInteger_bind {α : Type} (unit : FloatUnit) (integer : Int)
    (after : Word → Except Failure α) :
    (ofInteger unit integer >>= after) =
      (checked integer >>= fun value => after (unit.ofInt value)) := by
  unfold ofInteger checked
  split <;> rfl

/-- If a power has 64 bits, all lower ones have. -/
theorem isInteger64_pow_of_le {base : Int} {low high : Nat} (order : low ≤ high)
    (fits : isInteger64 (base ^ high) = true) : isInteger64 (base ^ low) = true := by
  rcases Nat.eq_or_lt_of_le order with rfl | less
  · exact fits
  have highest : base.natAbs ^ high ≤ 2 ^ 63 := by
    rw [← Int.natAbs_pow]
    have bounds := isInteger64_iff.mp fits
    omega
  have lowest : base.natAbs ^ low ≤ 2 ^ 62 := by
    by_cases small : base.natAbs ≤ 1
    · -- Powers of such a base do not grow.
      have one := Nat.pow_le_pow_left small low
      rw [Nat.one_pow] at one
      omega
    · have step : base.natAbs ^ (low + 1) ≤ base.natAbs ^ high :=
        Nat.pow_le_pow_right (by omega) less
      have double : base.natAbs ^ low * 2 ≤ base.natAbs ^ low * base.natAbs :=
        Nat.mul_le_mul_left _ (by omega)
      rw [Nat.pow_succ] at step
      omega
  rw [← Int.natAbs_pow] at lowest
  exact isInteger64_iff.mpr (by omega)

theorem multiplyDown_pow {base : Int} (count : Nat) {done : Nat}
    (fits : isInteger64 (base ^ done) = true) :
    multiplyDown (fun _ => base) count (base ^ done) = checked (base ^ (done + count)) := by
  induction count generalizing done with
  | zero => simp [multiplyDown, checked, fits]
  | succ count induction =>
      have next : base ^ done * base = base ^ (done + 1) := (Int.pow_succ _ _).symm
      rw [multiplyDown, next]
      split
      · next more => rw [induction more, Nat.add_right_comm, Nat.add_assoc]
      · next less =>
          have tooLarge : ¬ isInteger64 (base ^ (done + (count + 1))) = true := fun later =>
            less (isInteger64_pow_of_le (by omega) later)
          rw [checked, if_neg tooLarge]

theorem product_pos (count : Nat) : 0 < product count := by
  induction count with
  | zero => decide
  | succ count induction => exact Nat.mul_pos (Nat.succ_pos count) induction

theorem multiplyDown_product (count : Nat) {done : Int} (positive : 0 < done)
    (fits : isInteger64 done = true) :
    multiplyDown (fun index => index + 1) count done = checked (done * product count) := by
  induction count generalizing done with
  | zero => simp [multiplyDown, checked, product, fits]
  | succ count induction =>
      have next : done * (product (count + 1) : Nat) =
          done * ((count : Int) + 1) * (product count : Nat) := by
        rw [product, Int.natCast_mul, Int.mul_assoc]
        rfl
      have larger : 0 < done * ((count : Int) + 1) := Int.mul_pos positive (by omega)
      rw [multiplyDown, next]
      split
      · next more => exact induction larger more
      · next less =>
          have factor : (1 : Int) ≤ (product count : Nat) := by
            have above := product_pos count
            omega
          have grows : done * ((count : Int) + 1) * 1 ≤
              done * ((count : Int) + 1) * (product count : Nat) :=
            Int.mul_le_mul_of_nonneg_left factor (by omega)
          have tooLarge :
              ¬ isInteger64 (done * ((count : Int) + 1) * (product count : Nat)) = true := by
            rw [isInteger64_iff] at less ⊢
            omega
          rw [checked, if_neg tooLarge]

end Rpn.Evaluation
