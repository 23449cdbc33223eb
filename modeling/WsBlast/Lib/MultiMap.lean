import Mathlib

/-!
# Maps with several values at a key

A map is the list of its entries, the keys in the order in which they were
first added and the entries of a key one after the other (`Grouped`). `append`
adds an entry behind those of its key, and `insert` puts it in their place.
What a map holds at a key is a list (`entriesAt`), and these are lemmas about
it. Going through a grouped map in order, an entry has the key of the one
before or a new one (`Continues`), so that `append` puts it at the end.

Header maps are of this kind: the order of different names is that of their
first appearance, the order of the values of one name is the order they were
added in, and replacing a name puts the new value where the old ones began.
-/

namespace MultiMap

variable {K E : Type} [DecidableEq K] (key : E → K)

/-- Adds an entry after the last one of its key, or at the end. -/
def append (m : List E) (entry : E) : List E :=
  match m with
  | [] => [entry]
  | first :: rest =>
    if key first = key entry ∧ rest.all (fun other => key other ≠ key entry) then
      first :: entry :: rest
    else first :: append rest entry

/-- Puts an entry in place of every one of its key. -/
def insert (m : List E) (entry : E) : List E :=
  match m with
  | [] => [entry]
  | first :: rest =>
    if key first = key entry then entry :: rest.filter (fun other => key other ≠ key entry)
    else first :: insert rest entry

/-- The entries at a key. -/
def entriesAt (k : K) (m : List E) : List E := m.filter (key · = k)

section Entries

variable {key}

theorem mem_entriesAt {k : K} {m : List E} {entry : E} :
    entry ∈ entriesAt key k m ↔ entry ∈ m ∧ key entry = k := by
  unfold entriesAt
  rw [List.mem_filter, decide_eq_true_eq]

theorem entriesAt_cons (k : K) (first : E) (rest : List E) :
    entriesAt key k (first :: rest)
      = if key first = k then first :: entriesAt key k rest else entriesAt key k rest := by
  unfold entriesAt
  rw [List.filter_cons]
  exact if_congr decide_eq_true_iff rfl rfl

theorem entriesAt_concat (k : K) (m : List E) (entry : E) :
    entriesAt key k (m ++ [entry])
      = if key entry = k then entriesAt key k m ++ [entry] else entriesAt key k m := by
  unfold entriesAt
  rw [List.filter_append, List.filter_singleton]
  split_ifs with h <;> simp_all

theorem entriesAt_eq_nil {k : K} {m : List E} :
    entriesAt key k m = [] ↔ ∀ entry ∈ m, key entry ≠ k := by
  unfold entriesAt
  simp [List.filter_eq_nil_iff]

/-- **What `append` adds.** -/
theorem entriesAt_append (k : K) (m : List E) (entry : E) :
    entriesAt key k (append key m entry)
      = if key entry = k then entriesAt key k m ++ [entry] else entriesAt key k m := by
  induction m with
  | nil => exact entriesAt_concat k [] entry
  | cons first rest ih =>
    unfold append
    split_ifs with hlast hk hk
    · have hrest : entriesAt key k rest = [] :=
        entriesAt_eq_nil.mpr fun other hother => by
          have hne := List.all_eq_true.mp hlast.2 other hother
          rw [decide_eq_true_eq, hk] at hne
          exact hne
      simp [entriesAt_cons, hlast.1, hk, hrest]
    · simp [entriesAt_cons, hlast.1, hk]
    · rw [entriesAt_cons, ih, if_pos hk, entriesAt_cons]
      split_ifs <;> rfl
    · rw [entriesAt_cons, ih, if_neg hk, entriesAt_cons]

/-- **What `insert` leaves.** -/
theorem entriesAt_insert (k : K) (m : List E) (entry : E) :
    entriesAt key k (insert key m entry)
      = if key entry = k then [entry] else entriesAt key k m := by
  induction m with
  | nil => exact entriesAt_concat k [] entry
  | cons first rest ih =>
    unfold insert
    split_ifs with hfirst hk hk
    · rw [entriesAt_cons, if_pos hk]
      refine congrArg (entry :: ·) (entriesAt_eq_nil.mpr fun other hother => ?_)
      have hne := (List.mem_filter.mp hother).2
      rw [decide_eq_true_eq, hk] at hne
      exact hne
    · have hfilter : entriesAt key k (rest.filter fun other => key other ≠ key entry)
          = entriesAt key k rest := by
        unfold entriesAt
        rw [List.filter_filter]
        refine List.filter_congr fun other _ => ?_
        by_cases hother : key other = k
        · simp [hother, Ne.symm hk]
        · simp [hother]
      rw [entriesAt_cons, if_neg hk, hfilter, entriesAt_cons, if_neg (hfirst ▸ hk)]
    · rw [entriesAt_cons, ih, if_pos hk, if_neg (fun h => hfirst (h.trans hk.symm))]
    · rw [entriesAt_cons, ih, if_neg hk, entriesAt_cons]

end Entries

/-! ## The order of the entries

Iterating over a map and adding its entries to an empty one gives the map back,
and adding them to another one puts whole groups behind each other. -/

/-- An entry has the key of the last one in front of it, or a new one. -/
def Continues (front : List E) (entry : E) : Prop :=
  key entry ∈ front.map key → ∃ last ∈ front.getLast?, key last = key entry

/-- The entries of a key stand one after the other. -/
def Grouped (m : List E) : Prop :=
  ∀ front entry back, m = front ++ entry :: back → Continues key front entry

section Order

variable {key}

omit [DecidableEq K] in
theorem grouped_nil : Grouped key ([] : List E) := by
  intro front entry back h
  simp at h

omit [DecidableEq K] in
theorem getLast?_append_cons (front : List E) (entry : E) (rest : List E) :
    (front ++ entry :: rest).getLast? = (entry :: rest).getLast? :=
  List.getLast?_append_of_ne_nil front (List.cons_ne_nil entry rest)

/-- An entry that continues a map is added at its end. -/
theorem append_of_continues {m : List E} {entry : E} (h : Continues key m entry) :
    append key m entry = m ++ [entry] := by
  induction m with
  | nil => rfl
  | cons first rest ih =>
    unfold append
    cases rest with
    | nil => split_ifs <;> rfl
    | cons second rest =>
      have hlast : (first :: second :: rest).getLast? = (second :: rest).getLast? :=
        List.getLast?_cons_cons
      have hnot : ¬(key first = key entry
          ∧ (second :: rest).all (fun other => decide (key other ≠ key entry)) = true) := by
        rintro ⟨hfirst, hall⟩
        obtain ⟨last, hmem, hkey⟩ := h (by simp [hfirst])
        have hne := List.all_eq_true.mp hall last (List.mem_of_mem_getLast? (hlast ▸ hmem))
        exact absurd hkey (of_decide_eq_true hne)
      have hrest : Continues key (second :: rest) entry := fun hmem => by
        obtain ⟨last, hmem, hkey⟩ := h (List.mem_cons_of_mem _ hmem)
        exact ⟨last, hlast ▸ hmem, hkey⟩
      rw [if_neg hnot, ih hrest]
      rfl

omit [DecidableEq K] in
/-- The map in front of an entry is grouped. -/
theorem Grouped.left {front back : List E} (h : Grouped key (front ++ back)) :
    Grouped key front := by
  intro front' entry back' heq
  exact h front' entry (back' ++ back) (by rw [heq, List.append_assoc, List.cons_append])

omit [DecidableEq K] in
/-- What stands between two entries of a key has that key. -/
theorem Grouped.between {front middle : List E} {entry other : E}
    (h : Grouped key (front ++ entry :: (middle ++ [other]))) (hkey : key other = key entry) :
    ∀ between ∈ middle, key between = key entry := by
  induction middle using List.reverseRecOn generalizing other with
  | nil => simp
  | append_singleton middle last ih =>
    have hlast : key last = key entry := by
      obtain ⟨last', hmem, hkey'⟩ := h (front ++ entry :: (middle ++ [last])) other []
        (by simp) (by simp [hkey])
      rw [← List.cons_append, ← List.append_assoc, List.getLast?_concat] at hmem
      rw [Option.mem_some.mp hmem, hkey', hkey]
    have hleft : Grouped key (front ++ entry :: (middle ++ [last])) :=
      @Grouped.left K E key _ [other] (by simpa using h)
    intro between hbetween
    rcases List.mem_append.mp hbetween with hmem | hmem
    · exact ih hleft hlast between hmem
    · rw [List.mem_singleton.mp hmem, hlast]

omit [DecidableEq K] in
/-- An entry continues a part of what it continues. -/
theorem Grouped.continues_filter {front back : List E} {entry : E}
    (h : Grouped key (front ++ entry :: back)) (p : E → Bool) :
    Continues key (front.filter p) entry := by
  intro hmem
  obtain ⟨first, hfirst, hkey⟩ := List.mem_map.mp hmem
  obtain ⟨hfirst, hp⟩ := List.mem_filter.mp hfirst
  obtain ⟨before, after, rfl⟩ := List.append_of_mem hfirst
  have hgrouped : Grouped key (before ++ first :: (after ++ [entry])) :=
    @Grouped.left K E key _ back (by simpa using h)
  have hafter := hgrouped.between hkey.symm
  have hfilter :
      (before ++ first :: after).filter p = before.filter p ++ first :: after.filter p := by
    rw [List.filter_append, List.filter_cons_of_pos hp]
  have hne : first :: after.filter p ≠ [] := List.cons_ne_nil _ _
  refine ⟨(first :: after.filter p).getLast hne, ?_, ?_⟩
  · rw [hfilter, getLast?_append_cons]
    exact List.getLast?_eq_some_getLast hne
  · rcases List.mem_cons.mp (List.getLast_mem hne) with heq | hmem
    · rw [heq, hkey]
    · rw [hafter _ (List.mem_of_mem_filter hmem), hkey]

omit [DecidableEq K] in
theorem Grouped.filter {m : List E} (h : Grouped key m) (p : E → Bool) :
    Grouped key (m.filter p) := by
  intro front entry back heq
  obtain ⟨before, after, rfl, hbefore, hafter⟩ := List.filter_eq_append_iff.mp heq
  obtain ⟨skipped, rest, rfl, hskipped, -, -⟩ := List.filter_eq_cons_iff.mp hafter
  have hnil : skipped.filter p = [] := List.filter_eq_nil_iff.mpr hskipped
  have hgrouped : Grouped key ((before ++ skipped) ++ entry :: rest) := by simpa using h
  have hcontinues := hgrouped.continues_filter p
  rwa [List.filter_append, hbefore, hnil, List.append_nil] at hcontinues

/-- Where `append` puts an entry: at the end, or behind one of its key. -/
theorem exists_append_eq (m : List E) (entry : E) :
    ∃ front back, m = front ++ back ∧ append key m entry = front ++ entry :: back
      ∧ (∀ other ∈ back, key other ≠ key entry)
      ∧ (back = [] ∧ key entry ∉ front.map key ∨ ∃ last ∈ front.getLast?, key last = key entry) := by
  induction m with
  | nil => exact ⟨[], [], rfl, rfl, by simp, .inl ⟨rfl, List.not_mem_nil⟩⟩
  | cons first rest ih =>
    unfold append
    split_ifs with hhere
    · refine ⟨[first], rest, rfl, rfl, fun other hother => ?_, .inr ⟨first, rfl, hhere.1⟩⟩
      exact of_decide_eq_true (List.all_eq_true.mp hhere.2 other hother)
    · obtain ⟨front, back, rfl, happend, hback, hplace⟩ := ih
      refine ⟨first :: front, back, rfl, by rw [happend]; rfl, hback, ?_⟩
      rcases hplace with ⟨rfl, hnew⟩ | ⟨last, hlast, hkey⟩
      · refine .inl ⟨rfl, ?_⟩
        rw [List.map_cons, List.mem_cons, not_or]
        refine ⟨fun hfirst => hhere ⟨hfirst.symm, List.all_eq_true.mpr fun other hother => ?_⟩, hnew⟩
        rw [List.append_nil] at hother
        exact decide_eq_true fun hkey => hnew (hkey ▸ List.mem_map_of_mem hother)
      · refine .inr ⟨last, ?_, hkey⟩
        cases front with
        | nil => cases hlast
        | cons second front => rwa [List.getLast?_cons_cons]

/-- **Adding an entry keeps a map grouped.** -/
theorem Grouped.append {m : List E} (h : Grouped key m) (entry : E) :
    Grouped key (append key m entry) := by
  obtain ⟨front, back, rfl, happend, hback, hplace⟩ := @exists_append_eq K E _ key m entry
  have hentry : Continues key front entry := fun hmem => by
    rcases hplace with ⟨-, hnew⟩ | hlast
    · exact absurd hmem hnew
    · exact hlast
  rw [happend]
  intro front' other back' heq
  -- an entry of the new map is in the part in front of the new entry, the new entry
  -- itself, or in the part behind it
  rcases List.append_eq_append_iff.mp heq with ⟨inner, rfl, hrest⟩ | ⟨inner, rfl, hrest⟩
  · rcases inner with _ | ⟨first, inner⟩
    · obtain ⟨rfl, -⟩ := List.cons.inj hrest
      rwa [List.append_nil]
    · obtain ⟨rfl, rfl⟩ := List.cons.inj hrest
      have hne : key other ≠ key entry := hback other (by simp)
      intro hmem
      have hold : key other ∈ (front ++ inner).map key := by
        simpa [hne] using hmem
      obtain ⟨last, hlast, hkey⟩ := h (front ++ inner) other back' (by simp) hold
      rcases inner with _ | ⟨second, inner⟩
      · -- the last entry in front would have both keys
        exfalso
        rw [List.append_nil] at hlast
        rcases hplace with ⟨hnil, -⟩ | ⟨last', hlast', hkey'⟩
        · simp at hnil
        · rw [Option.mem_unique hlast' hlast] at hkey'
          exact hne (hkey.symm.trans hkey')
      · refine ⟨last, ?_, hkey⟩
        rw [getLast?_append_cons] at hlast ⊢
        rwa [List.getLast?_cons_cons]
  · rcases inner with _ | ⟨first, inner⟩
    · obtain ⟨rfl, -⟩ := List.cons.inj hrest
      rwa [List.append_nil] at hentry
    · obtain ⟨rfl, rfl⟩ := List.cons.inj hrest
      exact h front' other (inner ++ back) (by simp)

theorem grouped_foldl_append (entries : List E) : Grouped key (entries.foldl (append key) []) := by
  induction entries using List.reverseRecOn with
  | nil => exact grouped_nil
  | append_singleton entries entry ih =>
    rw [List.foldl_concat]
    exact ih.append entry

/-- What was added at a key, in the order in which it was. -/
theorem entriesAt_foldl_append (k : K) (entries : List E) :
    entriesAt key k (entries.foldl (append key) []) = entriesAt key k entries := by
  induction entries using List.reverseRecOn with
  | nil => rfl
  | append_singleton entries entry ih =>
    rw [List.foldl_concat, entriesAt_append, ih, entriesAt_concat]

theorem mem_foldl_append {entries : List E} {entry : E} :
    entry ∈ entries.foldl (append key) [] ↔ entry ∈ entries := by
  have h := congrArg (entry ∈ ·) (@entriesAt_foldl_append K E _ key (key entry) entries)
  simpa [mem_entriesAt] using h

end Order

end MultiMap
