import Mathlib.Data.Nat.Bitwise

/-!
# Mixing steps on machine words

The steps that hash finalisers and xorshift generators are made of, on words
of any width: xoring a word with a shift of itself, multiplying by a number
that has an inverse, and rotating. Each loses nothing, so a mixer composed of
them and of adding or xoring constants is injective.

Shifting is linear over xor, so what is to be shown of a shift step is that it
takes only zero to zero (`injective_of_xor`): a word that is a proper shift of
itself is zero.

Injectivity of a mixer matters where a generator must not reach a fixed point
it cannot leave, or where two inputs must not be mixed into one. A bijection of
a finite type is what an injective map of it is, so nothing is said about
inverses beyond the product.
-/

namespace BitMix

variable {w : ℕ}

/-- A step that is linear over xor and takes only zero to zero is injective. -/
theorem injective_of_xor {f : BitVec w → BitVec w} (hxor : ∀ x y, f (x ^^^ y) = f x ^^^ f y)
    (hzero : ∀ x, f x = 0#w → x = 0#w) : Function.Injective f := by
  intro x y h
  refine BitVec.xor_eq_zero_iff.mp (hzero _ ?_)
  rw [hxor, h, BitVec.xor_self]

/-! ## A word and a shift of itself

A proper shift moves the lowest set bit away from where it was, so only zero
equals a shift of itself. -/

/-- A word that is its own shift to the right is zero. -/
theorem eq_zero_of_eq_ushiftRight {k : ℕ} (hk : 0 < k) {x : BitVec w} (h : x = x >>> k) :
    x = 0#w := by
  have hdiv : x.toNat = x.toNat / 2 ^ k := by
    conv_lhs => rw [h]
    rw [BitVec.toNat_ushiftRight, Nat.shiftRight_eq_div_pow]
  refine BitVec.eq_of_toNat_eq ?_
  by_contra hne
  have hpos : 0 < x.toNat := Nat.pos_of_ne_zero hne
  have hlt := Nat.div_lt_self hpos (Nat.one_lt_two_pow hk.ne')
  omega

/-- A word that is its own shift to the left is zero. -/
theorem eq_zero_of_eq_shiftLeft {k : ℕ} (hk : 0 < k) {x : BitVec w} (h : x = x <<< k) :
    x = 0#w := by
  refine BitVec.eq_of_getLsbD_eq fun i hi => ?_
  rw [BitVec.getLsbD_zero]
  -- every bit is the bit `k` places below it, and those pushed in are clear
  induction i using Nat.strong_induction_on with
  | h i ih =>
    rw [h, BitVec.getLsbD_shiftLeft]
    rcases Nat.lt_or_ge i k with hlow | hhigh
    · simp [hlow]
    · rw [ih (i - k) (by omega) (by omega), Bool.and_false]

theorem xor_ushiftRight_eq_zero {k : ℕ} (hk : 0 < k) {x : BitVec w} (h : x ^^^ (x >>> k) = 0#w) :
    x = 0#w := eq_zero_of_eq_ushiftRight hk (BitVec.xor_eq_zero_iff.mp h)

theorem xor_shiftLeft_eq_zero {k : ℕ} (hk : 0 < k) {x : BitVec w} (h : x ^^^ (x <<< k) = 0#w) :
    x = 0#w := eq_zero_of_eq_shiftLeft hk (BitVec.xor_eq_zero_iff.mp h)

/-- Xoring a word with a shift of itself to the right loses nothing. -/
theorem xor_ushiftRight_injective {k : ℕ} (hk : 0 < k) :
    Function.Injective fun x : BitVec w => x ^^^ (x >>> k) := by
  refine injective_of_xor (fun x y => ?_) fun x h => xor_ushiftRight_eq_zero hk h
  show (x ^^^ y) ^^^ ((x ^^^ y) >>> k) = _
  rw [BitVec.ushiftRight_xor_distrib]
  ac_rfl

/-! ## Products and rotations -/

/-- Multiplying by a number that has an inverse loses nothing. -/
theorem mul_injective {a b : BitVec w} (h : a * b = 1#w) : Function.Injective fun x => x * a := by
  refine Function.LeftInverse.injective (g := fun x => x * b) fun x => ?_
  show x * a * b = x
  rw [BitVec.mul_assoc, h, BitVec.mul_one]

/-- Rotating loses nothing. -/
theorem rotate_injective {k : ℕ} (hk : k ≤ w) :
    Function.Injective fun x : BitVec w => (x <<< k) ||| (x >>> (w - k)) := by
  intro x y h
  refine BitVec.eq_of_getLsbD_eq fun i hi => ?_
  have hbit : ∀ j, ((x <<< k) ||| (x >>> (w - k))).getLsbD j
      = ((y <<< k) ||| (y >>> (w - k))).getLsbD j := fun j => congrArg (BitVec.getLsbD · j) h
  rcases Nat.lt_or_ge (i + k) w with hstays | hwraps
  · have hhigh := hbit (i + k)
    have hout : ∀ z : BitVec w, z.getLsbD (w - k + (i + k)) = false := fun z =>
      BitVec.getLsbD_of_ge z _ (by omega)
    have habove : ¬ i + k < k := by omega
    simpa [BitVec.getLsbD_or, BitVec.getLsbD_shiftLeft, BitVec.getLsbD_ushiftRight, hstays, hout,
      habove, hi] using hhigh
  · have hlow := hbit (i + k - w)
    have hpos : w - k + (i + k - w) = i := by omega
    have hbelow : i + k - w < k := by omega
    simpa [BitVec.getLsbD_or, BitVec.getLsbD_shiftLeft, BitVec.getLsbD_ushiftRight, hbelow, hpos]
      using hlow

end BitMix
