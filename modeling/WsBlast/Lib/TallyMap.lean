import Mathlib

/-!
# Maps that add up

Counts by key, kept in an ordered map: adding a value to a key creates the
key when it is missing, and adding one map to another adds each of its
values to its key. Whether a key is there matters, so the meaning of a map
is the function `lookup` into the values with an extra zero for a missing
key; on that side both operations are addition:

* `lookup_bump`, `lookup_addAll` – the two operations are additions;
* `lookup_injective` – a map is determined by its meaning;
* `total_bump` – the sum of all values adds up too.

The zero of `WithZero V` and the zero of `V` are two different things, and the
difference is the point: a key that was counted nothing is there, one that was
never counted is not.
-/

/-- A map from keys to values that are added up. -/
abbrev TallyMap (K V : Type) [Ord K] : Type := Std.ExtTreeMap K V compare

namespace TallyMap

variable {K V : Type} [Ord K] [Std.TransOrd K] [Std.LawfulEqOrd K]

/-- The value at a key, or the zero that stands for no key. -/
def lookup (m : TallyMap K V) (k : K) : WithZero V := m[k]?

/-- A map is determined by its meaning. -/
theorem lookup_injective : Function.Injective (lookup : TallyMap K V → K → WithZero V) := by
  intro m m' h
  exact Std.ExtTreeMap.ext_getElem? fun k => congrFun h k

omit [Std.LawfulEqOrd K] in
@[simp] theorem lookup_empty : lookup (∅ : TallyMap K V) = 0 := by
  funext k
  show (∅ : TallyMap K V)[k]? = none
  simp

section Add

variable [AddCommMonoid V] [DecidableEq K]

/-! ## Adding

A key that is missing is created by the first value that is added to it, so the
empty map is neutral and every operation below is an addition of meanings. -/

/-- Adds `v` at key `k`, which starts from 0 when it is missing. -/
def bump (m : TallyMap K V) (k : K) (v : V) : TallyMap K V :=
  m.alter k fun old => some (old.getD 0 + v)

/-- Adds the value at every key of `m'`. -/
def addAll (m m' : TallyMap K V) : TallyMap K V := m'.foldl bump m

/-- The sum of all values. -/
def total (m : TallyMap K V) : V := (m.toList.map Prod.snd).sum

omit [DecidableEq K] [Std.LawfulEqOrd K] in
/-- A map that something was added to is not empty. -/
theorem isEmpty_bump (m : TallyMap K V) (k : K) (v : V) : (m.bump k v).isEmpty = false := by
  rw [Std.ExtTreeMap.isEmpty_eq_false_iff]
  intro h
  exact Option.some_ne_none _ (Std.ExtTreeMap.alter_eq_empty_iff.mp h).2

/-- Adding at a key is addition of a map with that key alone. -/
@[simp] theorem lookup_bump (m : TallyMap K V) (k : K) (v : V) :
    lookup (m.bump k v) = lookup m + Pi.single k (v : WithZero V) := by
  funext k'
  rw [Pi.add_apply]
  by_cases hk : k = k'
  · subst hk
    rw [Pi.single_eq_same]
    show (m.bump k v)[k]? = _
    unfold bump lookup
    rw [Std.ExtTreeMap.getElem?_alter_self]
    cases m[k]? with
    | none =>
      show ((0 + v : V) : WithZero V) = 0 + (v : WithZero V)
      rw [zero_add, zero_add]
    | some w => rfl
  · rw [Pi.single_eq_of_ne (Ne.symm hk), add_zero]
    show (m.bump k v)[k']? = m[k']?
    unfold bump
    rw [Std.ExtTreeMap.getElem?_alter, if_neg (by simpa using hk)]

/-- Adding a list of entries is addition of the maps with one entry each. -/
theorem lookup_foldl_bump (entries : List (K × V)) (m : TallyMap K V) :
    lookup (entries.foldl (fun acc e => acc.bump e.1 e.2) m)
      = lookup m + (entries.map fun e => Pi.single e.1 (e.2 : WithZero V)).sum := by
  induction entries generalizing m with
  | nil => simp
  | cons e rest ih => rw [List.foldl_cons, ih, lookup_bump, List.map_cons, List.sum_cons, add_assoc]

omit [Ord K] [Std.TransOrd K] [Std.LawfulEqOrd K] in
/-- The entries of a list with distinct keys, as one function. -/
theorem sum_single_apply {entries : List (K × V)}
    (hdistinct : entries.Pairwise fun a b => a.1 ≠ b.1) (k : K) :
    (entries.map fun e => (Pi.single e.1 (e.2 : WithZero V) : K → WithZero V)).sum k
      = (entries.find? fun e => e.1 = k).elim 0 fun e => (e.2 : WithZero V) := by
  induction entries with
  | nil => rfl
  | cons e rest ih =>
    rw [List.pairwise_cons] at hdistinct
    rw [List.map_cons, List.sum_cons, Pi.add_apply, ih hdistinct.2]
    by_cases hk : e.1 = k
    · -- the key does not occur again in the rest
      have hnone : rest.find? (fun e => e.1 = k) = none := by
        rw [List.find?_eq_none]
        intro e' hmem heq
        exact hdistinct.1 e' hmem (hk.trans (of_decide_eq_true heq).symm)
      rw [hnone, List.find?_cons_of_pos (by simpa using hk), ← hk, Pi.single_eq_same]
      exact add_zero _
    · rw [List.find?_cons_of_neg (by simpa using hk), Pi.single_eq_of_ne (Ne.symm hk), zero_add]

omit [AddCommMonoid V] [DecidableEq K] in
theorem pairwise_keys_ne (m : TallyMap K V) :
    m.toList.Pairwise fun a b => a.1 ≠ b.1 := by
  refine m.distinct_keys_toList.imp fun h heq => h ?_
  rw [heq]
  exact Std.ReflCmp.compare_self

/-- The entries of a map, as one function. -/
theorem sum_single_toList (m : TallyMap K V) :
    (m.toList.map fun e => (Pi.single e.1 (e.2 : WithZero V) : K → WithZero V)).sum
      = lookup m := by
  funext k
  rw [sum_single_apply m.pairwise_keys_ne]
  show _ = (m[k]? : Option V)
  cases hfind : m.toList.find? (fun e => e.1 = k) with
  | none =>
    rw [List.find?_eq_none] at hfind
    cases hget : m[k]? with
    | none => rfl
    | some v =>
      rw [← Std.ExtTreeMap.mem_toList_iff_getElem?_eq_some] at hget
      exact absurd (decide_eq_true rfl) (hfind (k, v) hget)
  | some e =>
    have hmem := List.mem_of_find?_eq_some hfind
    have hkey : e.1 = k := by simpa using List.find?_some hfind
    subst hkey
    rw [Std.ExtTreeMap.mem_toList_iff_getElem?_eq_some.mp hmem]
    rfl

/-- **Adding maps is addition of what they mean.** -/
@[simp] theorem lookup_addAll (m m' : TallyMap K V) :
    lookup (m.addAll m') = lookup m + lookup m' := by
  unfold addAll
  rw [Std.ExtTreeMap.foldl_eq_foldl_toList, lookup_foldl_bump]
  exact congrArg _ (sum_single_toList m')

/-- The value behind a lookup, 0 for a missing key. -/
def value (v : WithZero V) : V := Option.getD v 0

omit [Ord K] [Std.TransOrd K] [Std.LawfulEqOrd K] [DecidableEq K] in
theorem value_add (v w : WithZero V) : value (v + w) = value v + value w := by
  cases v with
  | zero =>
    rw [zero_add]
    exact (zero_add _).symm
  | coe v =>
    cases w with
    | zero =>
      rw [add_zero]
      exact (add_zero _).symm
    | coe w => rfl

/-- Only the keys of a map have a value. -/
theorem support_value_lookup (m : TallyMap K V) :
    (Function.support fun k => value (lookup m k))
      ⊆ ((m.toList.map Prod.fst).toFinset : Set K) := by
  intro k hk
  rw [Function.mem_support] at hk
  cases hget : m[k]? with
  | none =>
    refine absurd ?_ hk
    show (m[k]?).getD 0 = 0
    rw [hget]
    rfl
  | some v =>
    rw [← Std.ExtTreeMap.mem_toList_iff_getElem?_eq_some] at hget
    rw [List.coe_toFinset, Set.mem_ofPred_eq, List.mem_map]
    exact ⟨(k, v), hget, rfl⟩

/-- The total is the sum over all keys. -/
theorem total_eq_finsum (m : TallyMap K V) : m.total = ∑ᶠ k, value (lookup m k) := by
  have hnodup : (m.toList.map Prod.fst).Nodup := by
    rw [List.nodup_iff_pairwise_ne, List.pairwise_map]
    exact m.pairwise_keys_ne
  rw [finsum_eq_sum_of_support_subset _ m.support_value_lookup, List.sum_toFinset _ hnodup,
    List.map_map]
  unfold total
  congr 1
  refine List.map_congr_left fun e hmem => ?_
  show e.2 = (m[e.1]?).getD 0
  rw [Std.ExtTreeMap.mem_toList_iff_getElem?_eq_some.mp hmem]
  rfl

/-- Adding at a key adds to the total. -/
theorem total_bump (m : TallyMap K V) (k : K) (v : V) : (m.bump k v).total = m.total + v := by
  rw [total_eq_finsum, total_eq_finsum, lookup_bump]
  simp only [Pi.add_apply, value_add]
  -- only the sum's term at `k` changes, and it changes by `v`
  have hsingle : ∀ k', value ((Pi.single k (v : WithZero V) : K → WithZero V) k')
      = if k' = k then v else 0 := by
    intro k'
    by_cases hk : k' = k
    · rw [hk, Pi.single_eq_same, if_pos rfl]
      rfl
    · rw [Pi.single_eq_of_ne hk, if_neg hk]
      rfl
  simp only [hsingle]
  have hfinite : (Function.support fun k' => if k' = k then v else 0).Finite := by
    refine (Set.finite_singleton k).subset fun k' hk' => ?_
    by_contra hne
    exact hk' (if_neg hne)
  rw [finsum_add_distrib ((Finset.finite_toSet _).subset m.support_value_lookup) hfinite]
  congr 1
  rw [finsum_eq_single _ k fun k' hne => if_neg hne, if_pos rfl]

end Add

end TallyMap
