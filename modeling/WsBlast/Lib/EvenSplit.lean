import Mathlib

/-!
# Dividing a total as evenly as possible

A total `n` is divided over `k` places by giving every place `n / k` and one
more to each of the first `n % k` places. The parts add up to the total,
any two of them differ by at most one, and none is zero as soon as there
are no more places than units. `SplitsEvenly` says this of a list of parts,
whatever produced it, and `splitsEvenly_parts` says it of the division
above.

The units of the total can be dealt out in turn: place `i` gets the units
`i`, `i + k`, `i + 2 * k` and so on. It gets as many of them as its part
(`lt_part_iff`), so the places together get every unit once
(`bijOn_deal`, `sum_deal`).

Nothing here depends on what is divided. A caller that divides connections,
rates or requests instantiates the total and the number of places, and has to
supply one side condition only: that there is at least one place.
-/

namespace EvenSplit

/-- The part of place `i` when `n` is divided over `k` places: the quotient,
and one more for the places before the remainder. -/
def part (n k i : ℕ) : ℕ := n / k + if i < n % k then 1 else 0

/-- The parts of all places, in order. The larger parts come first. -/
def parts (n k : ℕ) : List ℕ := (List.range k).map (part n k)

@[simp] theorem length_parts (n k : ℕ) : (parts n k).length = k := by
  simp [parts]

/-- The places below `m` that get the extra unit are those below the
remainder. -/
theorem sum_range_extra (m r : ℕ) :
    ((List.range m).map (fun i => if i < r then 1 else 0)).sum = min m r := by
  induction m with
  | zero => simp
  | succ m ih =>
    rw [List.range_succ, List.map_append, List.sum_append, ih]
    by_cases h : m < r
    · simp [h]; omega
    · simp [h]; omega

/-- **The parts add up to the total.** -/
theorem sum_parts (n : ℕ) {k : ℕ} (hk : 0 < k) : (parts n k).sum = n := by
  unfold parts part
  rw [List.sum_map_add, sum_range_extra, min_eq_right (Nat.mod_lt n hk).le]
  simp only [List.map_const', List.length_range, List.sum_replicate, smul_eq_mul]
  exact Nat.div_add_mod n k

/-- Two parts differ by at most one, whichever places they belong to. -/
theorem part_le_part_add_one (n k i j : ℕ) : part n k i ≤ part n k j + 1 := by
  unfold part
  split <;> omega

/-- A part is the quotient rounded down or up. -/
theorem part_eq_div_or_ceil {n k : ℕ} (hk : 0 < k) (i : ℕ) :
    part n k i = n / k ∨ part n k i = (n + k - 1) / k := by
  unfold part
  by_cases hextra : i < n % k
  · refine .inr ?_
    have hsplit := Nat.div_add_mod n k
    rw [if_pos hextra]
    refine (Nat.div_eq_of_lt_le ?_ ?_).symm
    · rw [Nat.add_mul, Nat.one_mul, Nat.mul_comm]
      omega
    · rw [Nat.add_mul, Nat.add_mul, Nat.one_mul, Nat.mul_comm]
      have hmod := Nat.mod_lt n hk
      omega
  · rw [if_neg hextra]
    exact .inl rfl

/-- With no more places than units, no place is left without one. -/
theorem part_pos {n k : ℕ} (hk : 0 < k) (h : k ≤ n) (i : ℕ) : 0 < part n k i :=
  Nat.add_pos_left (Nat.div_pos h hk) _

/-- Unit `m` of place `i` is among the units of the total exactly when it is
below the place's part. -/
theorem lt_part_iff {n k i : ℕ} (hi : i < k) (m : ℕ) : m < part n k i ↔ m * k + i < n := by
  have hsplit := Nat.div_add_mod n k
  have hmod := Nat.mod_lt n (Nat.zero_lt_of_lt hi)
  unfold part
  rw [mul_comm m k]
  constructor
  · intro hm
    by_cases hextra : i < n % k
    · rw [if_pos hextra] at hm
      have hle : k * m ≤ k * (n / k) := Nat.mul_le_mul_left k (Nat.le_of_lt_succ hm)
      omega
    · rw [if_neg hextra] at hm
      have hle : k * (m + 1) ≤ k * (n / k) := Nat.mul_le_mul_left k hm
      rw [Nat.mul_succ] at hle
      omega
  · intro hm
    by_contra hge
    rw [not_lt] at hge
    by_cases hextra : i < n % k
    · rw [if_pos hextra] at hge
      have hle : k * (n / k + 1) ≤ k * m := Nat.mul_le_mul_left k hge
      rw [Nat.mul_succ] at hle
      omega
    · rw [if_neg hextra] at hge
      have hle : k * (n / k) ≤ k * m := Nat.mul_le_mul_left k hge
      omega

/-- Different places, or different units of a place, are different units of
the total. -/
theorem deal_injective {k i j m m' : ℕ} (hi : i < k) (hj : j < k)
    (h : m * k + i = m' * k + j) : i = j ∧ m = m' := by
  have hplace : i = j := by
    have hmod : (m * k + i) % k = (m' * k + j) % k := congrArg (· % k) h
    rw [Nat.mul_add_mod_of_lt hi, Nat.mul_add_mod_of_lt hj] at hmod
    exact hmod
  subst hplace
  exact ⟨rfl, Nat.eq_of_mul_eq_mul_right (Nat.zero_lt_of_lt hi) (Nat.add_right_cancel h)⟩

/-- **Every unit is dealt out once.** -/
theorem bijOn_deal (n : ℕ) {k : ℕ} (hk : 0 < k) :
    Set.BijOn (fun p : ℕ × ℕ => p.2 * k + p.1) {p | p.1 < k ∧ p.2 < part n k p.1} (Set.Iio n) := by
  refine ⟨?_, ?_, ?_⟩
  · rintro ⟨i, m⟩ ⟨hi, hm⟩
    exact (lt_part_iff hi m).mp hm
  · rintro ⟨i, m⟩ ⟨hi, -⟩ ⟨j, m'⟩ ⟨hj, -⟩ h
    obtain ⟨rfl, rfl⟩ := deal_injective hi hj h
    rfl
  · intro x hx
    have hx' : x / k * k + x % k = x := Nat.div_add_mod' x k
    refine ⟨(x % k, x / k), ⟨Nat.mod_lt x hk, ?_⟩, hx'⟩
    rw [lt_part_iff (Nat.mod_lt x hk), hx']
    exact hx

/-- A sum over the units, place by place. -/
theorem sum_deal {M : Type} [AddCommMonoid M] (n : ℕ) {k : ℕ} (hk : 0 < k) (f : ℕ → M) :
    ∑ i ∈ Finset.range k, ∑ m ∈ Finset.range (part n k i), f (m * k + i)
      = ∑ x ∈ Finset.range n, f x := by
  rw [Finset.sum_sigma']
  refine Finset.sum_bij' (fun p _ => p.2 * k + p.1) (fun x _ => ⟨x % k, x / k⟩) ?_ ?_ ?_ ?_ ?_
  · rintro ⟨i, m⟩ hp
    simp only [Finset.mem_sigma, Finset.mem_range] at hp ⊢
    exact (lt_part_iff hp.1 m).mp hp.2
  · intro x hx
    simp only [Finset.mem_sigma, Finset.mem_range] at hx ⊢
    refine ⟨Nat.mod_lt x hk, ?_⟩
    rw [lt_part_iff (Nat.mod_lt x hk), Nat.div_add_mod']
    exact hx
  · rintro ⟨i, m⟩ hp
    simp only [Finset.mem_sigma, Finset.mem_range] at hp
    obtain ⟨hi, hm⟩ := deal_injective (Nat.mod_lt _ hk) hp.1 (Nat.div_add_mod' (m * k + i) k)
    rw [Sigma.mk.injEq]
    exact ⟨hi, heq_of_eq hm⟩
  · intro x hx
    exact Nat.div_add_mod' x k
  · rintro ⟨i, m⟩ hp
    rfl

/-- The units of a place are those that leave its number as the remainder. -/
theorem count_mod_eq_part {n k i : ℕ} (hi : i < k) : n.count (· % k = i) = part n k i := by
  have hcount := Nat.count_modEq_card (b := n) (Nat.zero_lt_of_lt hi) i
  rw [Nat.mod_eq_of_lt hi] at hcount
  rw [Nat.count_eq_card_filter_range] at hcount ⊢
  refine Eq.trans (congrArg Finset.card (Finset.filter_congr fun x _ => ?_)) hcount
  unfold Nat.ModEq
  rw [Nat.mod_eq_of_lt hi]

end EvenSplit

/-- **A list of parts divides a total evenly**: the parts add up to it, and
any two of them differ by at most one. -/
structure SplitsEvenly (parts : List ℕ) (total : ℕ) : Prop where
  /-- Nothing is lost and nothing is invented. -/
  sum_eq : parts.sum = total
  /-- No place gets two more than another. -/
  close : ∀ a ∈ parts, ∀ b ∈ parts, a ≤ b + 1

/-- The division over `k` places is even. -/
theorem splitsEvenly_parts (n : ℕ) {k : ℕ} (hk : 0 < k) :
    SplitsEvenly (EvenSplit.parts n k) n := by
  refine ⟨EvenSplit.sum_parts n hk, ?_⟩
  intro a ha b hb
  obtain ⟨i, -, rfl⟩ := List.mem_map.mp ha
  obtain ⟨j, -, rfl⟩ := List.mem_map.mp hb
  exact EvenSplit.part_le_part_add_one n k i j

/-- With no more places than units, every part of the division is
positive. -/
theorem EvenSplit.pos_of_mem_parts {n k : ℕ} (hk : 0 < k) (h : k ≤ n) :
    ∀ a ∈ EvenSplit.parts n k, 0 < a := by
  intro a ha
  obtain ⟨i, -, rfl⟩ := List.mem_map.mp ha
  exact EvenSplit.part_pos hk h i
