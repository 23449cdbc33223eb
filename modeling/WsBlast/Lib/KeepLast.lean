import WsBlast.Lib.OrderedMap

/-!
# Maps that keep their last entries

`keepLast n` leaves the entries of a map with the `n` largest keys. A map that
is cut back after every batch of entries ends as one that is cut back once
(`keepLast_insertAll`): what was dropped is never missed, as no later entry can
bring it back. So a key is still there when fewer than `n` larger ones were
ever entered (`lookup_keepLast`).

A bounded history over a growing key is a common economy: a window of time
intervals, a log with a maximal length. The economy is invisible as long as
readers ask for recent keys only, and the two results make that precise – the
first compares the bounded map with the unbounded one, the second says which
keys are recent enough.
-/

namespace OrderedMap

variable {K V : Type} {m a b : List (K × V)} {n : ℕ} {k : K}

/-- The entries with the `n` largest keys. -/
def keepLast (n : ℕ) (m : List (K × V)) : List (K × V) := m.drop (m.length - n)

theorem keepLast_of_length_le (h : m.length ≤ n) : keepLast n m = m := by
  unfold keepLast
  rw [Nat.sub_eq_zero_of_le h, List.drop_zero]

/-- A map is what it loses and what it keeps. -/
theorem take_append_keepLast (n : ℕ) (m : List (K × V)) :
    m.take (m.length - n) ++ keepLast n m = m := List.take_append_drop _ _

theorem length_keepLast (h : n ≤ m.length) : (keepLast n m).length = n := by
  unfold keepLast
  rw [List.length_drop]
  omega

/-- What comes in front of enough entries is lost. -/
theorem keepLast_append (h : n ≤ b.length) : keepLast n (a ++ b) = keepLast n b := by
  unfold keepLast
  have hlength : (a ++ b).length - n = a.length + (b.length - n) := by
    rw [List.length_append]
    omega
  rw [hlength, List.drop_length_add_append]

variable [LinearOrder K]

/-- Enters a value at a key. -/
def insert (m : List (K × V)) (entry : K × V) : List (K × V) :=
  alter entry.1 (fun _ => entry.2) m

/-- Enters values one by one. -/
def insertAll (m entries : List (K × V)) : List (K × V) := entries.foldl insert m

theorem Sorted.keepLast (hm : Sorted m) (n : ℕ) : Sorted (keepLast n m) :=
  hm.sublist (List.drop_sublist _ _)

/-- A key below the second part changes the first. -/
theorem alter_append_left (f : Option V → V) (h : ∀ entry ∈ b, k < entry.1) :
    alter k f (a ++ b) = alter k f a ++ b := by
  induction a with
  | nil =>
    cases b with
    | nil => rfl
    | cons entry rest =>
      obtain ⟨first, v⟩ := entry
      have hlt : k < first := h (first, v) List.mem_cons_self
      simp [alter, hlt]
  | cons entry rest ih =>
    obtain ⟨first, v⟩ := entry
    rw [List.cons_append]
    unfold alter
    split_ifs
    · rfl
    · rfl
    · rw [ih, List.cons_append]

/-- A key above the first part changes the second. -/
theorem alter_append_right (f : Option V → V) (h : ∀ entry ∈ a, entry.1 < k) :
    alter k f (a ++ b) = a ++ alter k f b := by
  induction a with
  | nil => rfl
  | cons entry rest ih =>
    obtain ⟨first, v⟩ := entry
    have hlt : first < k := h (first, v) List.mem_cons_self
    rw [List.cons_append, alter, if_neg hlt.asymm, if_neg hlt.ne',
      ih fun entry hentry => h entry (List.mem_cons_of_mem _ hentry), List.cons_append]

theorem length_le_alter (k : K) (f : Option V → V) (m : List (K × V)) :
    m.length ≤ (alter k f m).length := by
  induction m with
  | nil => exact Nat.zero_le _
  | cons entry rest ih =>
    obtain ⟨first, v⟩ := entry
    unfold alter
    split_ifs
    · exact Nat.le_succ _
    · exact le_rfl
    · exact Nat.succ_le_succ ih

/-- What a map has lost makes no difference to what it keeps. -/
theorem keepLast_insert (hm : Sorted m) (n : ℕ) (entry : K × V) :
    keepLast n (insert (keepLast n m) entry) = keepLast n (insert m entry) := by
  rcases Nat.lt_or_ge m.length n with hlt | hle
  · rw [keepLast_of_length_le hlt.le]
  obtain ⟨k, v⟩ := entry
  have hlength := length_keepLast hle
  have hsplit := take_append_keepLast n m
  generalize m.take (m.length - n) = lost at hsplit
  generalize keepLast n m = kept at hsplit hlength
  subst hsplit
  obtain ⟨-, hkept, hbetween⟩ := List.pairwise_append.mp hm
  unfold insert
  dsimp only
  -- a key below all that is kept is entered in front of it and lost again; any other key
  -- is above all that was lost
  by_cases hbelow : ∀ entry ∈ kept, k < entry.1
  · rw [alter_append_left _ hbelow, keepLast_append hlength.ge]
    have hfront : alter k (fun _ => v) ([] ++ kept) = alter k (fun _ => v) [] ++ kept :=
      alter_append_left _ hbelow
    rw [List.nil_append] at hfront
    rw [hfront, keepLast_append hlength.ge]
  · push Not at hbelow
    obtain ⟨entry, hentry, hle'⟩ := hbelow
    have habove : ∀ old ∈ lost, old.1 < k :=
      fun old hold => (hbetween old hold entry hentry).trans_le hle'
    rw [alter_append_right _ habove, keepLast_append (hlength.ge.trans (length_le_alter _ _ _))]

/-- **Cutting back after every batch is cutting back once.** -/
theorem keepLast_insertAll (hm : Sorted m) (n : ℕ) (entries : List (K × V)) :
    keepLast n (insertAll (keepLast n m) entries) = keepLast n (insertAll m entries) := by
  induction entries generalizing m with
  | nil =>
    show keepLast n (keepLast n m) = keepLast n m
    rcases Nat.lt_or_ge m.length n with hlt | hle
    · rw [keepLast_of_length_le hlt.le, keepLast_of_length_le hlt.le]
    · exact keepLast_of_length_le (length_keepLast hle).le
  | cons entry rest ih =>
    calc keepLast n (insertAll (insert (keepLast n m) entry) rest)
        = keepLast n (insertAll (keepLast n (insert (keepLast n m) entry)) rest) :=
          (ih ((hm.keepLast n).alter entry.1 _)).symm
      _ = keepLast n (insertAll (keepLast n (insert m entry)) rest) := by rw [keepLast_insert hm]
      _ = keepLast n (insertAll (insert m entry) rest) := ih (hm.alter entry.1 _)

theorem sorted_insertAll (hm : Sorted m) (entries : List (K × V)) :
    Sorted (insertAll m entries) := by
  induction entries generalizing m with
  | nil => exact hm
  | cons entry rest ih => exact ih (hm.alter entry.1 _)

/-- **The value at a key** is the last that was entered. -/
theorem lookup_insertAll (entries : List (K × V)) (k : K) :
    lookup (insertAll [] entries) k
      = (entries.filter fun entry => entry.1 = k).getLast?.map Prod.snd := by
  have hgroup : insertAll [] entries = group Prod.fst (fun entry _ => entry.2) entries := rfl
  rw [hgroup, lookup_group]
  induction entries.filter fun entry => entry.1 = k using List.reverseRecOn with
  | nil => rfl
  | append_singleton before entry _ =>
    unfold groupValue
    rw [List.foldl_append, List.getLast?_concat]
    rfl

/-- Every key of a map was entered. -/
theorem mem_of_lookup_insertAll {entries : List (K × V)} {v : V}
    (h : lookup (insertAll [] entries) k = some v) : (k, v) ∈ entries := by
  rw [lookup_insertAll] at h
  obtain ⟨entry, hlast, rfl⟩ := Option.map_eq_some_iff.mp h
  obtain ⟨hmem, hkey⟩ := List.mem_filter.mp (List.mem_of_getLast? hlast)
  obtain rfl := of_decide_eq_true hkey
  exact hmem

/-- **What is kept**: a key with fewer than `n` keys above it. -/
theorem lookup_keepLast (hm : Sorted m) (h : m.countP (fun entry => k < entry.1) < n) :
    lookup (keepLast n m) k = lookup m k := by
  rcases Nat.lt_or_ge m.length n with hlt | hle
  · rw [keepLast_of_length_le hlt.le]
  have hlength := length_keepLast hle
  have hsplit := take_append_keepLast n m
  generalize m.take (m.length - n) = lost at hsplit
  generalize keepLast n m = kept at hsplit hlength
  subst hsplit
  obtain ⟨-, -, hbetween⟩ := List.pairwise_append.mp hm
  have hsome : ∃ entry ∈ kept, ¬ k < entry.1 := by
    by_contra hall
    push Not at hall
    have hcount : kept.countP (fun entry => k < entry.1) = kept.length :=
      List.countP_eq_length.mpr fun entry hentry => decide_eq_true (hall entry hentry)
    rw [List.countP_append] at h
    omega
  obtain ⟨entry, hentry, hnot⟩ := hsome
  have hnone : lost.find? (fun entry => decide (entry.1 = k)) = none := by
    refine List.find?_eq_none.mpr fun old hold heq => hnot ?_
    exact of_decide_eq_true heq ▸ hbetween old hold entry hentry
  unfold lookup
  rw [List.find?_append, hnone, Option.none_or]

/-- The keys of a map all lie in a set with few of them above `k`. -/
theorem countP_lt_of_keys (hm : Sorted m) {s : Finset K}
    (hs : ∀ entry ∈ m, k < entry.1 → entry.1 ∈ s) :
    m.countP (fun entry => k < entry.1) ≤ s.card := by
  have hkeys : ((m.filter fun entry => k < entry.1).map Prod.fst).Nodup :=
    List.pairwise_map.mpr ((hm.filter _).imp fun hlt => hlt.ne)
  calc m.countP (fun entry => k < entry.1)
      = ((m.filter fun entry => k < entry.1).map Prod.fst).length := by
        rw [List.length_map, List.countP_eq_length_filter]
    _ = ((m.filter fun entry => k < entry.1).map Prod.fst).toFinset.card :=
        (List.toFinset_card_of_nodup hkeys).symm
    _ ≤ s.card := by
        refine Finset.card_le_card fun key hkey => ?_
        obtain ⟨entry, hentry, rfl⟩ := List.mem_map.mp (List.mem_toFinset.mp hkey)
        obtain ⟨hmem, hlt⟩ := List.mem_filter.mp hentry
        exact hs entry hmem (of_decide_eq_true hlt)

end OrderedMap
