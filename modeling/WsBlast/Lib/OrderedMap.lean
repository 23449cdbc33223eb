import Mathlib

/-!
# Maps kept in the order of their keys

A map is the list of its entries in the order of their keys. `alter` changes
the value at one key, which may be missing. Folding `alter` over entries
groups them: the value at a key is the fold of the entries with that key, in
their order (`lookup_group`), and the map lists the keys that occur, in order
(`group_eq`). Folding the `alter` of a search tree groups
them in the same way (`toList_foldl_alter`).

The list form is what a specification can compute with, and a search tree is
what a program uses. Both are maps in the order of their keys, so the tree's
`toList` is a `Sorted` list and its `alter` acts on that list as `alter` here
does; a function of the program that fills a tree from a stream is so described
by `filter` on the stream, one key at a time.
-/

namespace OrderedMap

variable {K V E : Type} [LinearOrder K]

/-- The value at `k` becomes `f` of what it was. -/
def alter (k : K) (f : Option V → V) : List (K × V) → List (K × V)
  | [] => [(k, f none)]
  | (first, v) :: rest =>
    if k < first then (k, f none) :: (first, v) :: rest
    else if k = first then (first, f (some v)) :: rest
    else (first, v) :: alter k f rest

/-- The value at a key. -/
def lookup (m : List (K × V)) (k : K) : Option V := (m.find? (·.1 = k)).map Prod.snd

/-- The keys are in order. -/
def Sorted (m : List (K × V)) : Prop := m.Pairwise fun a b => a.1 < b.1

@[simp] theorem lookup_nil (k : K) : lookup ([] : List (K × V)) k = none := rfl

theorem lookup_cons (first : K) (v : V) (rest : List (K × V)) (k : K) :
    lookup ((first, v) :: rest) k = if first = k then some v else lookup rest k := by
  unfold lookup
  rw [List.find?_cons]
  by_cases h : first = k <;> simp [h]

/-- A key below all others is missing. -/
theorem lookup_eq_none {m : List (K × V)} {k : K} (h : ∀ entry ∈ m, k < entry.1) :
    lookup m k = none := by
  have hnone : m.find? (fun entry => decide (entry.1 = k)) = none := by
    rw [List.find?_eq_none]
    intro entry hentry heq
    exact absurd (of_decide_eq_true heq) (h entry hentry).ne'
  rw [lookup, hnone, Option.map_none]

/-- **What a map holds after `alter`.** -/
theorem lookup_alter {m : List (K × V)} (hm : Sorted m) (k : K) (f : Option V → V) (j : K) :
    lookup (alter k f m) j = if k = j then some (f (lookup m k)) else lookup m j := by
  induction m with
  | nil => rw [alter, lookup_cons, lookup_nil, lookup_nil]
  | cons entry rest ih =>
    obtain ⟨first, v⟩ := entry
    obtain ⟨hfirst, hrest⟩ := List.pairwise_cons.mp hm
    unfold alter
    split
    · rename_i hlt
      have hnone : lookup ((first, v) :: rest) k = none := by
        refine lookup_eq_none fun entry hentry => ?_
        obtain rfl | hentry := List.mem_cons.mp hentry
        · exact hlt
        · exact hlt.trans (hfirst entry hentry)
      rw [lookup_cons, hnone]
    · split
      · rename_i heq
        subst heq
        rw [lookup_cons, lookup_cons, lookup_cons, if_pos rfl]
        split <;> rfl
      · rename_i hlt hne
        rw [lookup_cons, ih hrest, lookup_cons, lookup_cons, if_neg (Ne.symm hne)]
        by_cases hj : first = j
        · subst hj
          rw [if_pos rfl, if_neg hne, if_pos rfl]
        · rw [if_neg hj, if_neg hj]

/-- The keys after `alter`. -/
theorem key_mem_alter {m : List (K × V)} {k : K} {f : Option V → V} {entry : K × V}
    (h : entry ∈ alter k f m) : entry.1 = k ∨ ∃ old ∈ m, entry.1 = old.1 := by
  induction m with
  | nil =>
    rw [alter, List.mem_singleton] at h
    exact .inl (congrArg Prod.fst h)
  | cons head rest ih =>
    obtain ⟨first, v⟩ := head
    unfold alter at h
    split at h
    · obtain rfl | h := List.mem_cons.mp h
      · exact .inl rfl
      · exact .inr ⟨entry, h, rfl⟩
    · split at h
      · obtain rfl | h := List.mem_cons.mp h
        · exact .inr ⟨(first, v), List.mem_cons_self, rfl⟩
        · exact .inr ⟨entry, List.mem_cons_of_mem _ h, rfl⟩
      · obtain rfl | h := List.mem_cons.mp h
        · exact .inr ⟨(first, v), List.mem_cons_self, rfl⟩
        · obtain hk | ⟨old, hold, heq⟩ := ih h
          · exact .inl hk
          · exact .inr ⟨old, List.mem_cons_of_mem _ hold, heq⟩

/-- The keys stay in order. -/
theorem Sorted.alter {m : List (K × V)} (hm : Sorted m) (k : K) (f : Option V → V) :
    Sorted (alter k f m) := by
  induction m with
  | nil => exact List.pairwise_singleton _ _
  | cons head rest ih =>
    obtain ⟨first, v⟩ := head
    obtain ⟨hfirst, hrest⟩ := List.pairwise_cons.mp hm
    unfold OrderedMap.alter
    split
    · rename_i hlt
      refine List.pairwise_cons.mpr ⟨fun entry hentry => ?_, hm⟩
      obtain rfl | hentry := List.mem_cons.mp hentry
      · exact hlt
      · exact hlt.trans (hfirst entry hentry)
    · split
      · exact List.pairwise_cons.mpr ⟨hfirst, hrest⟩
      · rename_i hlt hne
        refine List.pairwise_cons.mpr ⟨fun entry hentry => ?_, ih hrest⟩
        obtain hk | ⟨old, hold, heq⟩ := key_mem_alter hentry
        · show first < entry.1
          rw [hk]
          exact lt_of_le_of_ne (not_lt.mp hlt) (Ne.symm hne)
        · show first < entry.1
          rw [heq]
          exact hfirst old hold

theorem mem_iff_lookup {m : List (K × V)} (hm : Sorted m) (k : K) (v : V) :
    (k, v) ∈ m ↔ lookup m k = some v := by
  induction m with
  | nil => simp
  | cons head rest ih =>
    obtain ⟨first, w⟩ := head
    obtain ⟨hfirst, hrest⟩ := List.pairwise_cons.mp hm
    rw [List.mem_cons, lookup_cons, ih hrest]
    by_cases heq : first = k
    · subst heq
      have hnone : lookup rest first = none := lookup_eq_none hfirst
      simp [hnone, eq_comm]
    · have hne : (k, v) ≠ (first, w) := fun h => heq (congrArg Prod.fst h).symm
      simp [heq, hne]

/-- **A map is determined by what it holds.** -/
theorem eq_of_lookup_eq {m m' : List (K × V)} (hm : Sorted m) (hm' : Sorted m')
    (h : ∀ k, lookup m k = lookup m' k) : m = m' := by
  have hnodup : ∀ {m : List (K × V)}, Sorted m → m.Nodup := fun hm =>
    hm.imp fun hlt heq => absurd (congrArg Prod.fst heq) hlt.ne
  have hperm : m.Perm m' := by
    refine (List.perm_ext_iff_of_nodup (hnodup hm) (hnodup hm')).mpr fun entry => ?_
    obtain ⟨k, v⟩ := entry
    rw [mem_iff_lookup hm, mem_iff_lookup hm', h k]
  exact hperm.eq_of_pairwise (fun a b _ _ hab hba => absurd hba hab.asymm) hm hm'

/-- Some of the elements of a set, in order. -/
theorem filter_sort (s : Finset K) (p : K → Prop) [DecidablePred p] :
    (s.sort (· ≤ ·)).filter p = (s.filter p).sort (· ≤ ·) := by
  have hperm : ((s.sort (· ≤ ·)).filter p).Perm ((s.filter p).sort (· ≤ ·)) := by
    refine (List.perm_ext_iff_of_nodup ((s.sort_nodup _).filter _)
      ((s.filter p).sort_nodup _)).mpr fun a => ?_
    simp
  have hleft : ((s.sort (· ≤ ·)).filter p).Pairwise (· < ·) :=
    s.sortedLT_sort.pairwise.filter _
  exact hperm.eq_of_pairwise (fun a b _ _ hab hba => absurd hba hab.asymm) hleft
    (s.filter p).sortedLT_sort.pairwise

/-! ## Grouping

Entries come in any order and many may have one key. -/

section Grouping

variable (key : E → K) (step : E → Option V → V)

/-- Entries grouped by key. -/
def group (entries : List E) : List (K × V) :=
  entries.foldl (fun m e => alter (key e) (step e) m) []

/-- The value of one key's entries. -/
def groupValue (entries : List E) : Option V :=
  entries.foldl (fun old e => some (step e old)) none

theorem sorted_group (entries : List E) : Sorted (group key step entries) := by
  unfold group
  induction entries using List.reverseRecOn with
  | nil => exact List.Pairwise.nil
  | append_singleton entries e ih =>
    rw [List.foldl_append]
    exact ih.alter (key e) (step e)

/-- **The value at a key is that of its entries.** -/
theorem lookup_group (entries : List E) (k : K) :
    lookup (group key step entries) k
      = groupValue step (entries.filter fun e => key e = k) := by
  induction entries using List.reverseRecOn with
  | nil => rfl
  | append_singleton entries e ih =>
    have hsnoc : group key step (entries ++ [e])
        = alter (key e) (step e) (group key step entries) := by
      unfold group
      rw [List.foldl_append]
      rfl
    rw [hsnoc, lookup_alter (sorted_group key step entries), List.filter_append]
    by_cases hk : key e = k
    · subst hk
      rw [if_pos rfl, ih]
      simp [groupValue]
    · rw [if_neg hk, ih]
      simp [hk]

/-- **Grouping lists the keys that occur, in order, with the values of their
entries.** -/
theorem group_eq (entries : List E) (value : K → V)
    (hvalue : ∀ k ∈ entries.map key,
      groupValue step (entries.filter fun e => key e = k) = some (value k)) :
    group key step entries
      = ((entries.map key).toFinset.sort (· ≤ ·)).map fun k => (k, value k) := by
  have hsorted : Sorted (((entries.map key).toFinset.sort (· ≤ ·)).map fun k => (k, value k)) := by
    rw [Sorted, List.pairwise_map]
    exact (entries.map key).toFinset.sortedLT_sort.pairwise
  refine eq_of_lookup_eq (sorted_group key step entries) hsorted fun k => ?_
  rw [lookup_group]
  by_cases hk : k ∈ entries.map key
  · rw [hvalue k hk, eq_comm, ← mem_iff_lookup hsorted]
    refine List.mem_map.mpr ⟨k, ?_, rfl⟩
    rw [Finset.mem_sort, List.mem_toFinset]
    exact hk
  · have hempty : entries.filter (fun e => decide (key e = k)) = [] := by
      refine List.filter_eq_nil_iff.mpr fun e he heq => hk ?_
      exact List.mem_map.mpr ⟨e, he, of_decide_eq_true heq⟩
    rw [hempty, eq_comm]
    show lookup _ k = none
    by_contra hsome
    obtain ⟨v, hv⟩ := Option.ne_none_iff_exists'.mp hsome
    obtain ⟨k', hk', heq⟩ := List.mem_map.mp ((mem_iff_lookup hsorted k v).mpr hv)
    rw [Finset.mem_sort, List.mem_toFinset] at hk'
    rw [(Prod.mk.inj heq).1] at hk'
    exact hk hk'

/-- What the entries add up to is the sum over the keys of what their entries
add up to. -/
theorem sum_groups {M : Type} [AddCommMonoid M] (entries : List E) (amount : E → M) :
    (((entries.map key).toFinset.sort (· ≤ ·)).map fun k =>
        ((entries.filter fun e => key e = k).map amount).sum).sum = (entries.map amount).sum := by
  have hover : ∀ keys : Finset K, (∀ e ∈ entries, key e ∈ keys) →
      ∑ k ∈ keys, ((entries.filter fun e => key e = k).map amount).sum
        = (entries.map amount).sum := by
    induction entries with
    | nil => simp
    | cons e rest ih =>
      intro keys hkeys
      have hsplit : ∀ k, (((e :: rest).filter fun e => key e = k).map amount).sum
          = (if key e = k then amount e else 0)
            + ((rest.filter fun e => key e = k).map amount).sum := by
        intro k
        by_cases hk : key e = k <;> simp [hk]
      simp only [hsplit]
      rw [Finset.sum_add_distrib, ih keys fun e he => hkeys e (List.mem_cons_of_mem _ he),
        Finset.sum_ite_eq, if_pos (hkeys e List.mem_cons_self), List.map_cons, List.sum_cons]
  rw [← hover (entries.map key).toFinset fun e he =>
      List.mem_toFinset.mpr (List.mem_map_of_mem he),
    ← List.sum_toFinset _ (Finset.sort_nodup _ _), Finset.sort_toFinset]

end Grouping

/-! ## Search trees -/

section Tree

variable [Std.TransOrd K] [Std.LawfulEqOrd K]

omit [Std.LawfulEqOrd K] in
/-- The entries of a search tree are a map in order. -/
theorem sorted_toList (m : Std.ExtTreeMap K V compare) : Sorted m.toList := by
  have hkeys : (m.toList.map Prod.fst).Pairwise fun a b => compare a b = .lt := by
    rw [Std.ExtTreeMap.map_fst_toList_eq_keys]
    exact Std.ExtTreeMap.ordered_keys
  exact (List.pairwise_map.mp hkeys).imp compare_lt_iff_lt.mp

theorem lookup_toList (m : Std.ExtTreeMap K V compare) (k : K) : lookup m.toList k = m[k]? := by
  refine Option.ext fun v => ?_
  rw [← mem_iff_lookup (sorted_toList m), Std.ExtTreeMap.mem_toList_iff_getElem?_eq_some]

/-- **A search tree groups in the same way.** -/
theorem toList_foldl_alter (key : E → K) (step : E → Option V → V) (entries : List E) :
    (entries.foldl (fun m e => m.alter (key e) fun old => some (step e old))
      (∅ : Std.ExtTreeMap K V compare)).toList = group key step entries := by
  refine eq_of_lookup_eq (sorted_toList _) (sorted_group key step entries) ?_
  induction entries using List.reverseRecOn with
  | nil =>
    intro k
    rw [lookup_toList]
    simp [group]
  | append_singleton entries e ih =>
    intro k
    rw [lookup_toList, lookup_group, List.foldl_append, List.foldl_cons, List.foldl_nil,
      Std.ExtTreeMap.getElem?_alter, ← lookup_toList, ← lookup_toList, ih, ih, lookup_group,
      lookup_group, List.filter_append]
    by_cases hk : key e = k
    · subst hk
      simp [groupValue]
    · simp [hk]

end Tree
end OrderedMap
