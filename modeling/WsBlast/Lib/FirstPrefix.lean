import Mathlib.Data.List.Infix
import Mathlib.Data.Nat.Find
import Mathlib.Order.Bounds.Basic

/-!
# The first prefix with a property

Who reads a stream up to a marker waits for the shortest prefix that ends in
it. `IsFirst P s n` says that the shortest prefix of `s` with `P` has `n`
elements. What comes behind it does not matter (`IsFirst.append`,
`IsFirst.of_append`), so it is found at the same place in whatever pieces the
stream arrives.

* `Finds found P s` says that `found` is that length, or `none` without such a
  prefix; `Finds.or` finds the first of two kinds with `earlier`.
* `endOf marker s` is where the first `marker` in `s` ends (`finds_endOf`).

A search that is run again each time more has arrived starts over from the
beginning, and one that remembers where it was does not; both are right when
they report the length of the first prefix. So the definition does not say how
the search goes.
-/

namespace FirstPrefix

variable {α : Type} {P Q : List α → Prop} {s more : List α} {n : ℕ}

/-- The shortest prefix of `s` with `P` has `n` elements. -/
def IsFirst (P : List α → Prop) (s : List α) (n : ℕ) : Prop :=
  IsLeast {m | m ≤ s.length ∧ P (s.take m)} n

theorem IsFirst.le (h : IsFirst P s n) : n ≤ s.length := h.1.1

theorem IsFirst.append (h : IsFirst P s n) (more : List α) : IsFirst P (s ++ more) n := by
  refine ⟨⟨h.le.trans (by simp), ?_⟩, fun m hm => ?_⟩
  · rw [List.take_append_of_le_length h.le]
    exact h.1.2
  · by_contra hlt
    have hle : m ≤ s.length := (Nat.le_of_not_le hlt).trans h.le
    have hprefix := hm.2
    rw [List.take_append_of_le_length hle] at hprefix
    exact hlt (h.2 ⟨hle, hprefix⟩)

theorem IsFirst.of_append (h : IsFirst P (s ++ more) n) (hn : n ≤ s.length) : IsFirst P s n := by
  refine ⟨⟨hn, ?_⟩, fun m hm => h.2 ⟨hm.1.trans (by simp), ?_⟩⟩
  · have hprefix := h.1.2
    rwa [List.take_append_of_le_length hn] at hprefix
  · rw [List.take_append_of_le_length hm.1]
    exact hm.2

/-- The prefix that was found is found in itself. -/
theorem IsFirst.take (h : IsFirst P s n) : IsFirst P (s.take n) n := by
  have hwhole : IsFirst P (s.take n ++ s.drop n) n := by rwa [List.take_append_drop]
  exact hwhole.of_append (List.length_take_of_le h.le).ge

/-- `found` is the length of the first prefix with `P`, if there is one. -/
def Finds (found : Option ℕ) (P : List α → Prop) (s : List α) : Prop :=
  ∀ n, found = some n ↔ IsFirst P s n

/-- The earlier of two finds. -/
def earlier : Option ℕ → Option ℕ → Option ℕ
  | some a, some b => some (min a b)
  | a, b => a.or b

namespace Finds

variable {found other : Option ℕ}

theorem eq_none_iff (h : Finds found P s) :
    found = none ↔ ∀ m ≤ s.length, ¬ P (s.take m) := by
  classical
  constructor
  · intro hnone m hm hprefix
    have hex : ∃ m, m ≤ s.length ∧ P (s.take m) := ⟨m, hm, hprefix⟩
    have hfirst : IsFirst P s (Nat.find hex) :=
      ⟨Nat.find_spec hex, fun k hk => Nat.find_min' hex hk⟩
    rw [(h _).mpr hfirst] at hnone
    exact Option.some_ne_none _ hnone
  · intro hno
    cases hfound : found with
    | none => rfl
    | some n =>
      obtain ⟨⟨hn, hprefix⟩, -⟩ := (h n).mp hfound
      exact absurd hprefix (hno n hn)

/-- The earlier of two finds is the first of either kind. -/
theorem or (h : Finds found P s) (hother : Finds other Q s) :
    Finds (earlier found other) (fun t => P t ∨ Q t) s := by
  have hset : {m | m ≤ s.length ∧ (P (s.take m) ∨ Q (s.take m))}
      = {m | m ≤ s.length ∧ P (s.take m)} ∪ {m | m ≤ s.length ∧ Q (s.take m)} := by
    ext m
    exact and_or_left
  intro n
  unfold IsFirst
  rw [hset]
  -- where one search finds nothing, its set of lengths is empty and the other decides
  have hempty : ∀ {found : Option ℕ} {P : List α → Prop}, Finds found P s → found = none →
      {m | m ≤ s.length ∧ P (s.take m)} = ∅ := fun h hnone =>
    Set.eq_empty_iff_forall_notMem.mpr fun m hm => h.eq_none_iff.mp hnone m hm.1 hm.2
  cases hfound : found with
  | none =>
    rw [hempty h hfound, Set.empty_union, show earlier none other = other from rfl]
    exact hother n
  | some a =>
    have ha : IsFirst P s a := (h a).mp hfound
    cases hsecond : other with
    | none =>
      rw [hempty hother hsecond, Set.union_empty]
      show some a = some n ↔ IsFirst P s n
      rw [← hfound]
      exact h n
    | some b =>
      have hleast := IsLeast.union ha ((hother b).mp hsecond)
      show some (min a b) = some n ↔ _
      constructor
      · intro heq
        rwa [← Option.some.inj heq]
      · intro hn
        rw [hleast.unique hn]

end Finds

/-! ## Markers

The property most protocols ask for: a prefix that ends in a fixed sequence,
such as an empty line. -/

/-- Where the first `marker` in `s` ends. -/
def endOf [DecidableEq α] (marker s : List α) : Option ℕ :=
  (s.tails.findIdx? fun rest => marker <+: rest).map (· + marker.length)

/-- A prefix that ends in the marker leaves the marker in front of what comes
`marker.length` elements earlier. -/
theorem suffix_take_iff {marker : List α} :
    (n ≤ s.length ∧ marker <:+ s.take n)
      ↔ ∃ i, i ≤ s.length ∧ marker <+: s.drop i ∧ i + marker.length = n := by
  constructor
  · rintro ⟨hn, before, hbefore⟩
    have hlength := congrArg List.length hbefore
    rw [List.length_append, List.length_take_of_le hn] at hlength
    refine ⟨before.length, by omega, ⟨s.drop n, ?_⟩, hlength⟩
    conv_rhs => rw [← List.take_append_drop n s, ← hbefore, List.append_assoc]
    exact (List.drop_left ..).symm
  · rintro ⟨i, hi, ⟨after, hafter⟩, rfl⟩
    have hs : s = s.take i ++ (marker ++ after) := by rw [hafter, List.take_append_drop]
    have hlength := congrArg List.length hs
    rw [List.length_append, List.length_append, List.length_take_of_le hi] at hlength
    refine ⟨by omega, s.take i, ?_⟩
    conv_rhs => rw [hs]
    rw [← List.append_assoc, List.take_left' (by
      rw [List.length_append, List.length_take_of_le hi])]

theorem finds_endOf [DecidableEq α] (marker s : List α) :
    Finds (endOf marker s) (marker <:+ ·) s := by
  intro n
  unfold endOf
  rw [Option.map_eq_some_iff]
  have hset : {m | m ≤ s.length ∧ marker <:+ s.take m}
      = {m | ∃ i, i ≤ s.length ∧ marker <+: s.drop i ∧ i + marker.length = m} := by
    ext m
    exact suffix_take_iff
  unfold IsFirst
  rw [hset]
  constructor
  · rintro ⟨i, hi, rfl⟩
    -- the tail that was found is the first one, so no earlier place has the marker
    obtain ⟨hlt, hat, hbefore⟩ := List.findIdx?_eq_some_iff_getElem.mp hi
    rw [List.length_tails] at hlt
    rw [List.getElem_tails] at hat
    refine ⟨⟨i, Nat.lt_succ_iff.mp hlt, of_decide_eq_true hat, rfl⟩, ?_⟩
    rintro m ⟨j, hj, hmarker, rfl⟩
    by_contra hlt
    have hji : j < i := by omega
    have hnot := hbefore j hji
    rw [List.getElem_tails] at hnot
    exact hnot (decide_eq_true hmarker)
  · rintro ⟨⟨i, hi, hmarker, rfl⟩, hleast⟩
    refine ⟨i, List.findIdx?_eq_some_iff_getElem.mpr ⟨?_, ?_, fun j hj => ?_⟩, rfl⟩
    · rw [List.length_tails]
      omega
    · rw [List.getElem_tails]
      exact decide_eq_true hmarker
    · rw [List.getElem_tails]
      intro hat
      have := hleast ⟨j, by omega, of_decide_eq_true hat, rfl⟩
      omega

end FirstPrefix
