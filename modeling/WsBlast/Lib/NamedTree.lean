import Mathlib

/-!
# Search trees filled under names

A search tree tabulates a partial function of some items when it holds the
value of each item under the item's name, and nothing else. Entries that
are values of items under their names, inserted in any order and any number
of times, lay the function of their values over the one that was tabulated
(`Tabulates.insertMany`).

The order of the names is whatever the tree is sorted by, and the result does
not depend on it: the tree is characterised by its lookups. This is what makes
it safe to fill a tree from a list in which a name may occur several times, as
long as all the entries of one name agree – the last one wins, and it does not
matter which that is.
-/

namespace NamedTree

variable {ι K V : Type} [Ord K] [Std.TransOrd K] [Std.LawfulEqOrd K]

/-- A tree holds the value of each item under its name, and nothing else. -/
structure Tabulates (name : ι → K) (value : ι → Option V) (m : Std.ExtTreeMap K V compare) :
    Prop where
  /-- Under the name of an item is the item's value, or nothing when it has
  none. -/
  at_name : ∀ i, m[name i]? = value i
  /-- No key is there that is not an item's name. -/
  named : ∀ k ∈ m, ∃ i, k = name i

variable {name : ι → K} {value : ι → Option V} {m : Std.ExtTreeMap K V compare}

omit [Std.LawfulEqOrd K] in
theorem tabulates_empty : Tabulates name (fun _ => none) (∅ : Std.ExtTreeMap K V compare) where
  at_name _ := Std.ExtTreeMap.getElem?_empty
  named _ hk := absurd hk Std.ExtTreeMap.not_mem_empty

/-- Entries that agree on the value of a key give it that value. -/
theorem getElem?_insertMany [BEq K] [LawfulBEq K] {entries : List (K × V)} {k : K} {v : Option V}
    (h : ∀ w, (k, w) ∈ entries ↔ v = some w) : (m.insertMany entries)[k]? = v.or m[k]? := by
  rw [Std.ExtTreeMap.getElem?_insertMany_list, List.findSomeRev?_eq_findSome?_reverse]
  congr 1
  cases hfound : List.findSome? _ entries.reverse with
  | none =>
    rw [List.findSome?_eq_none_iff] at hfound
    cases v with
    | none => rfl
    | some w =>
      -- the entry itself would have been found
      have hnone := hfound (k, w) (List.mem_reverse.mpr ((h w).mpr rfl))
      dsimp only at hnone
      rw [if_pos Std.ReflOrd.compare_self] at hnone
      exact absurd hnone (Option.some_ne_none w)
  | some w =>
    obtain ⟨⟨a, b⟩, hentry, heq⟩ := List.exists_of_findSome?_eq_some hfound
    dsimp only at heq
    by_cases hkey : compare a k = .eq
    · rw [if_pos hkey] at heq
      obtain rfl := Option.some.inj heq
      obtain rfl := Std.LawfulEqOrd.eq_of_compare hkey
      exact ((h b).mp (List.mem_reverse.mp hentry)).symm
    · rw [if_neg hkey] at heq
      cases heq

/-- **Named entries lay their values over what was tabulated.** -/
theorem Tabulates.insertMany [BEq K] [LawfulBEq K] (hm : Tabulates name value m)
    (hname : Function.Injective name) {entries : List (K × V)} {added : ι → Option V}
    (hentries : ∀ k v, (k, v) ∈ entries ↔ ∃ i, k = name i ∧ added i = some v) :
    Tabulates name (fun i => (added i).or (value i)) (m.insertMany entries) where
  at_name i := by
    have hadded : ∀ w, (name i, w) ∈ entries ↔ added i = some w := by
      intro w
      rw [hentries]
      constructor
      · rintro ⟨j, hj, hw⟩
        rwa [hname hj]
      · exact fun hw => ⟨i, rfl, hw⟩
    rw [getElem?_insertMany hadded, hm.at_name]
  named k hk := by
    rw [Std.ExtTreeMap.mem_insertMany_list, List.contains_iff_mem, List.mem_map] at hk
    obtain hk | ⟨entry, hentry, rfl⟩ := hk
    · exact hm.named k hk
    · obtain ⟨i, hi, -⟩ := (hentries _ _).mp hentry
      exact ⟨i, hi⟩

omit [Std.LawfulEqOrd K] in
theorem Tabulates.mem_iff (hm : Tabulates name value m) (i : ι) :
    name i ∈ m ↔ (value i).isSome := by
  rw [← hm.at_name, ← Std.ExtTreeMap.mem_iff_isSome_getElem?]

end NamedTree
