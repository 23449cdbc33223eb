import Mathlib

/-!
# Machines that take one step at a time

A machine is a function `step : S → A → Option S`: in a state it can take some
of the actions `A`, and each leads to one state. Whatever the machine does not
decide itself, the order in which its parties move or what their environment
answers, is part of the action, so the runs of a machine are all lists of
actions it can take (`Machine.run`).

* `Machine.run_inv` – what every step keeps, every run keeps.
* `Machine.exists_step` – what holds at the end of a run and did not hold
  before it came about in one of its steps.
* `Machine.Throughout` – the runs whose steps all meet a condition, with the
  same rule for them (`Machine.Throughout.run_inv`).
* `Machine.sum_update` – what adds up over parties, of which one moves.

A step function with `Option` keeps the two halves of a transition system
together: `none` says that the action is not enabled, `some t` says where it
leads. A machine is deterministic in this sense, and still describes every
interleaving, because the choice of who moves is in the list of actions.
-/

namespace Machine

variable {S A : Type} (step : S → A → Option S)

/-- The state after a list of actions, when each of them could be taken. -/
def run (s : S) (actions : List A) : Option S := actions.foldlM step s

variable {step} {s t u : S} {actions rest : List A}

theorem run_cons {a : A} :
    run step s (a :: rest) = some u ↔ ∃ t, step s a = some t ∧ run step t rest = some u := by
  show (step s a).bind _ = some u ↔ _
  rw [Option.bind_eq_some_iff]
  rfl

theorem run_append :
    run step s (actions ++ rest) = some u
      ↔ ∃ t, run step s actions = some t ∧ run step t rest = some u := by
  unfold run
  rw [List.foldlM_append]
  exact Option.bind_eq_some_iff

/-- **The invariant rule**: what every step keeps, every run keeps. -/
theorem run_inv {P : S → Prop} (hstep : ∀ {s t : S} {a : A}, P s → step s a = some t → P t)
    (hs : P s) (hrun : run step s actions = some u) : P u := by
  induction actions generalizing s with
  | nil =>
    obtain rfl := Option.some.inj hrun
    exact hs
  | cons a rest ih =>
    obtain ⟨t, ht, hrest⟩ := run_cons.mp hrun
    exact ih (hstep hs ht) hrest

/-- **The origin rule**: what holds after a run and did not hold before it
came about in one of its steps. Where the invariant rule says what is so at
every moment, this one finds the moment: a state that records what was done
gives back the step that did it. -/
theorem exists_step {P : S → Prop} (hs : ¬ P s) (hu : P u) (hrun : run step s actions = some u) :
    ∃ before a after mid next, actions = before ++ a :: after ∧ run step s before = some mid
      ∧ step mid a = some next ∧ ¬ P mid ∧ P next := by
  induction actions generalizing s with
  | nil =>
    obtain rfl := Option.some.inj hrun
    exact absurd hu hs
  | cons a rest ih =>
    obtain ⟨t, ht, hrest⟩ := run_cons.mp hrun
    by_cases hP : P t
    · exact ⟨[], a, rest, s, t, rfl, rfl, ht, hs, hP⟩
    · obtain ⟨before, b, after, mid, next, rfl, hbefore, hstep⟩ := ih hP hrest
      exact ⟨a :: before, b, after, mid, next, rfl, run_cons.mpr ⟨t, ht, hbefore⟩, hstep⟩

/-! ## Runs whose steps meet a condition

Some properties hold only as long as the environment behaves: a message is not
late, a moment is not missed. -/

variable (step) in
/-- Every step of a run meets `ok`, in the state it is taken in. -/
def Throughout (ok : S → A → Prop) : S → List A → Prop
  | _, [] => True
  | s, a :: rest => ok s a ∧ ∀ t, step s a = some t → Throughout ok t rest

namespace Throughout

variable {ok : S → A → Prop}

/-- Whether all steps of a run meet a condition can be decided when it can be
decided for each. -/
instance decidable [∀ s a, Decidable (ok s a)] :
    (s : S) → (actions : List A) → Decidable (Throughout step ok s actions)
  | _, [] => .isTrue trivial
  | s, a :: rest =>
    match hstep : step s a with
    | none => decidable_of_iff (ok s a)
        ⟨fun h => ⟨h, fun t ht => by simp [hstep] at ht⟩, fun h => h.1⟩
    | some t =>
      have := decidable t rest
      decidable_of_iff (ok s a ∧ Throughout step ok t rest)
        ⟨fun h => ⟨h.1, fun t' ht => by
          rw [hstep] at ht
          exact Option.some.inj ht ▸ h.2⟩, fun h => ⟨h.1, h.2 t hstep⟩⟩

theorem cons {a : A} (h : step s a = some t) :
    Throughout step ok s (a :: rest) ↔ ok s a ∧ Throughout step ok t rest := by
  refine and_congr_right fun _ => ⟨fun hrest => hrest t h, fun hrest u hu => ?_⟩
  obtain rfl := Option.some.inj (h.symm.trans hu)
  exact hrest

/-- The condition holds up to any moment of a run, and from then on. -/
theorem append (hrun : run step s actions = some t) :
    Throughout step ok s (actions ++ rest)
      ↔ Throughout step ok s actions ∧ Throughout step ok t rest := by
  induction actions generalizing s with
  | nil =>
    obtain rfl := Option.some.inj hrun
    simp [Throughout]
  | cons a more ih =>
    obtain ⟨u, hu, hmore⟩ := run_cons.mp hrun
    show ok s a ∧ (∀ v, step s a = some v → Throughout step ok v (more ++ rest))
      ↔ (ok s a ∧ ∀ v, step s a = some v → Throughout step ok v more)
        ∧ Throughout step ok t rest
    simp only [hu, Option.some.injEq, forall_eq', ih hmore, and_assoc]

/-- The invariant rule for runs whose steps meet a condition. -/
theorem run_inv {P : S → Prop}
    (hstep : ∀ {s t : S} {a : A}, P s → ok s a → step s a = some t → P t)
    (hs : P s) (hok : Throughout step ok s actions) (hrun : run step s actions = some u) :
    P u := by
  induction actions generalizing s with
  | nil =>
    obtain rfl := Option.some.inj hrun
    exact hs
  | cons a rest ih =>
    obtain ⟨t, ht, hrest⟩ := run_cons.mp hrun
    exact ih (hstep hs hok.1 ht) (hok.2 t ht) hrest

end Throughout

/-! ## Parties

The state of a system of many parties is a function from party to state, and a
step changes it at one place. -/

section Parties

variable {ι V M : Type} [DecidableEq ι] [Fintype ι]

/-- What is added up over all parties changes by what the one that moves
contributes. -/
theorem sum_update [AddCommMonoid M] (f : V → M) (parties : ι → V) (i : ι) (v : V) :
    ∑ j, f (Function.update parties i v j) + f (parties i) = ∑ j, f (parties j) + f v := by
  have hcomp : (fun j => f (Function.update parties i v j))
      = Function.update (fun j => f (parties j)) i (f v) := Function.comp_update f parties i v
  have hold := Finset.sum_update_of_mem (Finset.mem_univ i) (fun j => f (parties j)) (f (parties i))
  rw [Function.update_eq_self] at hold
  rw [hcomp, Finset.sum_update_of_mem (Finset.mem_univ i), hold]
  abel

end Parties

end Machine
