import Mathlib

/-!
# Computations that can be rejected

Rules for `Except` computations made of checks: when a sequence of them
succeeds, what each of its parts gave. A check is a computation that returns
nothing (`reject`), and a list is checked element by element (`mapM`).

Validation code is a long sequence of checks of which the first that fails
decides the result. To say what an accepted input is like, the sequence is read
backwards: from the success of the whole, the success of each part.
-/

namespace Checked

variable {ε ε' α β : Type}

/-- Rejects with `err` when the condition holds. -/
def reject (condition : Prop) [Decidable condition] (err : ε) : Except ε Unit :=
  if condition then .error err else .ok ()

@[simp] theorem reject_eq_ok {condition : Prop} [Decidable condition] {err : ε} {u : Unit} :
    reject condition err = .ok u ↔ ¬condition := by
  unfold reject
  split <;> simp [*]

/-- A sequence succeeds when its first part does and the rest does on what
it gave. -/
theorem bind_eq_ok {x : Except ε α} {f : α → Except ε β} {result : β} :
    (x >>= f) = .ok result ↔ ∃ a, x = .ok a ∧ f a = .ok result := by
  cases x with
  | error err => simp [bind, Except.bind]
  | ok a => simp [bind, Except.bind]

@[simp] theorem ok_bind (a : α) (f : α → Except ε β) : (Except.ok a >>= f) = f a := rfl

/-- A check in front of a computation only decides whether it runs. -/
theorem check_bind_eq_ok {x : Except ε Unit} {f : Except ε β} {result : β} :
    (x >>= fun _ => f) = .ok result ↔ x = .ok () ∧ f = .ok result := by
  rw [bind_eq_ok]
  exact ⟨fun ⟨_, hx, hf⟩ => ⟨hx, hf⟩, fun ⟨hx, hf⟩ => ⟨(), hx, hf⟩⟩

@[simp] theorem pure_eq_ok {a b : α} : (pure a : Except ε α) = .ok b ↔ a = b := by
  show Except.ok a = Except.ok b ↔ _
  simp

theorem map_eq_ok {f : α → β} {x : Except ε α} {result : β} :
    f <$> x = .ok result ↔ ∃ a, x = .ok a ∧ f a = result := by
  cases x with
  | error err => simp [Functor.map, Except.map]
  | ok a => simp [Functor.map, Except.map]

/-- Naming an error differently does not change what succeeds. -/
@[simp] theorem mapError_eq_ok {f : ε → ε'} {x : Except ε α} {result : α} :
    x.mapError f = .ok result ↔ x = .ok result := by
  cases x with
  | error err => exact ⟨fun h => (nomatch h), fun h => (nomatch h)⟩
  | ok a => simp [Except.mapError]

/-- A list is checked when each of its elements is. -/
theorem mapM_eq_ok {f : α → Except ε β} {items : List α} {results : List β} :
    items.mapM f = .ok results ↔ List.Forall₂ (fun a b => f a = .ok b) items results := by
  induction items generalizing results with
  | nil =>
    rw [List.mapM_nil, pure_eq_ok, List.forall₂_nil_left_iff]
    exact eq_comm
  | cons a items ih =>
    rw [List.mapM_cons, bind_eq_ok, List.forall₂_cons_left_iff]
    constructor
    · rintro ⟨b, hb, h⟩
      obtain ⟨rest, hrest, h⟩ := bind_eq_ok.mp h
      cases pure_eq_ok.mp h
      exact ⟨b, rest, hb, ih.mp hrest, rfl⟩
    · rintro ⟨b, rest, hb, hrest, rfl⟩
      refine ⟨b, hb, ?_⟩
      rw [bind_eq_ok]
      exact ⟨rest, ih.mpr hrest, rfl⟩

/-- The result of an element of a checked list is at its position. -/
theorem exists_getElem?_mapM {f : α → Except ε β} {items : List α} {results : List β}
    (h : items.mapM f = .ok results) {i : ℕ} {a : α} (ha : items[i]? = some a) :
    ∃ b, results[i]? = some b ∧ f a = .ok b := by
  obtain ⟨hlen, hget⟩ := List.forall₂_iff_get.mp (mapM_eq_ok.mp h)
  obtain ⟨hi, rfl⟩ := List.getElem?_eq_some_iff.mp ha
  exact ⟨results[i], List.getElem?_eq_getElem (hlen ▸ hi), hget i hi (hlen ▸ hi)⟩

/-- Every result of a checked list is that of one of its elements. -/
theorem exists_of_mem_mapM {f : α → Except ε β} {items : List α} {results : List β}
    (h : items.mapM f = .ok results) {b : β} (hb : b ∈ results) : ∃ a ∈ items, f a = .ok b := by
  induction mapM_eq_ok.mp h with
  | nil => cases hb
  | cons hab hrest ih =>
    rcases List.mem_cons.mp hb with rfl | hb
    · exact ⟨_, List.mem_cons_self, hab⟩
    · obtain ⟨a, ha, hfa⟩ := ih (mapM_eq_ok.mpr hrest) hb
      exact ⟨a, List.mem_cons_of_mem _ ha, hfa⟩

/-- A list is rejected for one of its elements. -/
theorem exists_error_of_mapM {f : α → Except ε β} {items : List α} {err : ε}
    (h : items.mapM f = .error err) : ∃ a ∈ items, f a = .error err := by
  induction items with
  | nil => cases h
  | cons a items ih =>
    rw [List.mapM_cons] at h
    rcases ha : f a with err' | b
    · rw [ha] at h
      cases h
      exact ⟨a, List.mem_cons_self, ha⟩
    · rw [ha, ok_bind] at h
      rcases hrest : items.mapM f with err' | results
      · rw [hrest] at h
        cases h
        obtain ⟨a', hmem, ha'⟩ := ih hrest
        exact ⟨a', List.mem_cons_of_mem _ hmem, ha'⟩
      · rw [hrest] at h
        cases h

/-- A list of checks passes when each of them does. -/
theorem forM_eq_ok {f : α → Except ε PUnit} {items : List α} :
    items.forM f = .ok () ↔ ∀ a ∈ items, f a = .ok () := by
  induction items with
  | nil => exact iff_of_true rfl (by simp)
  | cons a items ih =>
    show (f a >>= fun _ => items.forM f) = .ok () ↔ _
    rw [check_bind_eq_ok, ih]
    simp

end Checked
