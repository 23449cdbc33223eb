import WsBlast.Lib.Machine

/-!
# The connections of the metrics endpoint

The accept loop counts every connection in an atomic counter before it serves
it in a task of its own, and each task takes its connection off the count when
it is done, so the additions and the subtractions of all of them interleave.
The counter is always what the tasks hold and what the loop has just added
(`Counted`); so no more than 32 connections are served at once, and one is
closed without a response only when 32 others hold a slot
(`slots_are_not_lost`).

The counter is bumped first and compared after. A connection that finds 32
others is closed at once and its slot given back, so for a moment the counter
may show more than are served.
-/

namespace WsBlast

namespace Prometheus

/-! ## The server -/

/-- Connections served at once. -/
def maxConcurrent : ℕ := 32

/-- `fetch_add(1)` on a `usize`. -/
def fetchAdd (count : ℕ) : ℕ := (count + 1) % 2 ^ 64

/-- `fetch_sub(1)` on a `usize`. -/
def fetchSub (count : ℕ) : ℕ := (count + (2 ^ 64 - 1)) % 2 ^ 64

theorem fetchAdd_eq {count : ℕ} (h : count < 2 ^ 64 - 1) : fetchAdd count = count + 1 :=
  Nat.mod_eq_of_lt (by omega)

theorem fetchSub_eq {count : ℕ} (hpos : 0 < count) (h : count < 2 ^ 64) :
    fetchSub count = count - 1 := by
  unfold fetchSub
  omega

/-- Where the accept loop is. -/
inductive AcceptLoop where
  | accepting
  /-- An accept failed; it sleeps. -/
  | resting
  /-- It has a connection. -/
  | accepted
  /-- It has counted the connection; `before` is what the counter was. -/
  | counted (before : ℕ)
  | stopped
  deriving DecidableEq, Repr

/-- Where the task of a connection is. -/
inductive Serving where
  | handling
  /-- Done, and its slot is not given back yet. -/
  | done
  | gone
  deriving DecidableEq, Repr

/-- Whether the task holds a slot. -/
def Serving.holds : Serving → Bool
  | .gone => false
  | _ => true

/-- The server. -/
structure Server where
  loop : AcceptLoop := .accepting
  inFlight : ℕ := 0
  cancelled : Bool := false
  /-- The tasks, in the order in which they were spawned. -/
  tasks : List Serving := []
  deriving DecidableEq, Repr

/-- A step of the loop, of a task, or of who shuts the server down. -/
inductive ServerStep where
  | accept
  | acceptFails
  | wake
  | count
  /-- The connection is closed. -/
  | refuse
  | spawn
  /-- A task has served its connection, or was cancelled. -/
  | finish (task : ℕ)
  | giveBack (task : ℕ)
  | cancel
  | stop
  deriving DecidableEq, Repr

namespace Server

variable (s : Server)

/-- The slots that the tasks hold. -/
def held : ℕ := s.tasks.countP Serving.holds

/-- One step, where it can be taken. -/
def step : ServerStep → Option Server
  | .accept => if s.loop = .accepting ∧ s.cancelled = false then
      some { s with loop := .accepted } else none
  | .acceptFails => if s.loop = .accepting ∧ s.cancelled = false then
      some { s with loop := .resting } else none
  | .wake => if s.loop = .resting then some { s with loop := .accepting } else none
  | .count => if s.loop = .accepted then
      some { s with loop := .counted s.inFlight, inFlight := fetchAdd s.inFlight } else none
  | .refuse =>
    match s.loop with
    | .counted before => if maxConcurrent ≤ before then
        some { s with loop := .accepting, inFlight := fetchSub s.inFlight } else none
    | _ => none
  | .spawn =>
    match s.loop with
    | .counted before => if maxConcurrent ≤ before then none else
        some { s with loop := .accepting, tasks := s.tasks ++ [.handling] }
    | _ => none
  | .finish task => if s.tasks[task]? = some .handling then
      some { s with tasks := s.tasks.set task .done } else none
  | .giveBack task => if s.tasks[task]? = some .done then
      some { s with tasks := s.tasks.set task .gone, inFlight := fetchSub s.inFlight } else none
  | .cancel => some { s with cancelled := true }
  | .stop => if s.loop = .accepting ∧ s.cancelled = true then
      some { s with loop := .stopped } else none

/-! ## The count -/

/-- The slot that the loop has added and neither handed to a task nor taken
off. -/
def pending : ℕ :=
  match s.loop with
  | .counted _ => 1
  | _ => 0

/-- The counter is what the tasks hold and what the loop has just added. -/
structure Counted : Prop where
  atMost : s.held ≤ maxConcurrent
  inFlight_eq : s.inFlight = s.held + s.pending
  /-- Only the loop adds, so since it has, no more have been held. -/
  before : ∀ before, s.loop = .counted before → s.held ≤ before

variable {s}

theorem Counted.lt (h : s.Counted) : s.inFlight < 2 ^ 64 - 1 := by
  have hpending : s.pending ≤ 1 := by
    unfold pending
    split <;> decide
  have hmost : s.held ≤ 32 := h.atMost
  have heq := h.inFlight_eq
  omega

/-- A task moves on: what is held changes by what it holds. -/
theorem held_set {task : ℕ} {now : Serving} (h : s.tasks[task]? = some now) (next : Serving) :
    (s.tasks.set task next).countP Serving.holds + (if now.holds then 1 else 0)
      = s.held + if next.holds then 1 else 0 := by
  obtain ⟨hlt, hget⟩ := List.getElem?_eq_some_iff.mp h
  have hcount := List.countP_set (p := Serving.holds) (a := next) hlt
  rw [hget] at hcount
  have hpos : (if now.holds then 1 else 0) ≤ s.tasks.countP Serving.holds := by
    split_ifs with hnow
    · exact List.countP_pos_iff.mpr ⟨now, hget ▸ List.getElem_mem hlt, hnow⟩
    · exact Nat.zero_le _
  unfold held
  omega

/-- A step that leaves the counter and the tasks alone keeps the count. -/
theorem Counted.idle (h : s.Counted) {loop : AcceptLoop} {cancelled : Bool}
    (hbefore : s.pending = 0) (hafter : ∀ before, loop ≠ .counted before) :
    Counted { s with loop, cancelled } where
  atMost := h.atMost
  inFlight_eq := by
    have hpending : pending { s with loop, cancelled } = 0 := by
      unfold pending
      cases loop with
      | counted before => exact absurd rfl (hafter before)
      | _ => rfl
    rw [hpending, ← hbefore]
    exact h.inFlight_eq
  before := fun before hloop => absurd hloop (hafter before)

/-- Every step keeps the count. -/
theorem Counted.step {t : Server} {action : ServerStep} (h : s.Counted)
    (hstep : s.step action = some t) : t.Counted := by
  have hlt := h.lt
  have heq := h.inFlight_eq
  have hnone : ∀ {loop : AcceptLoop}, s.loop = loop → (∀ before, loop ≠ .counted before) →
      s.pending = 0 := by
    intro loop hloop hnot
    unfold pending
    rw [hloop]
    -- a slot is pending only between the addition and the comparison
    cases loop with
    | counted before => exact absurd rfl (hnot before)
    | _ => rfl
  have hcounted : ∀ {before : ℕ}, s.loop = .counted before → s.pending = 1 := by
    intro before hloop
    unfold pending
    rw [hloop]
  cases action with
  | accept =>
    simp only [Server.step, Option.ite_none_right_eq_some, Option.some.injEq] at hstep
    obtain ⟨hloop, rfl⟩ := hstep
    exact h.idle (hnone hloop.1 (by simp)) (by simp)
  | acceptFails =>
    simp only [Server.step, Option.ite_none_right_eq_some, Option.some.injEq] at hstep
    obtain ⟨hloop, rfl⟩ := hstep
    exact h.idle (hnone hloop.1 (by simp)) (by simp)
  | wake =>
    simp only [Server.step, Option.ite_none_right_eq_some, Option.some.injEq] at hstep
    obtain ⟨hloop, rfl⟩ := hstep
    exact h.idle (hnone hloop (by simp)) (by simp)
  | stop =>
    simp only [Server.step, Option.ite_none_right_eq_some, Option.some.injEq] at hstep
    obtain ⟨hloop, rfl⟩ := hstep
    exact h.idle (hnone hloop.1 (by simp)) (by simp)
  | cancel =>
    obtain rfl := Option.some.inj hstep
    exact ⟨h.atMost, h.inFlight_eq, h.before⟩
  | count =>
    simp only [Server.step, Option.ite_none_right_eq_some, Option.some.injEq] at hstep
    obtain ⟨hloop, rfl⟩ := hstep
    rw [hnone hloop (by simp), Nat.add_zero] at heq
    refine ⟨h.atMost, ?_, fun before hbefore => ?_⟩
    · show fetchAdd s.inFlight = s.held + 1
      rw [fetchAdd_eq hlt, heq]
    · obtain rfl := AcceptLoop.counted.inj hbefore
      exact heq.ge
  | refuse =>
    cases hloop : s.loop with
    | counted before =>
      simp only [Server.step, hloop, Option.ite_none_right_eq_some, Option.some.injEq] at hstep
      obtain ⟨-, rfl⟩ := hstep
      rw [hcounted hloop] at heq
      refine ⟨h.atMost, ?_, by simp⟩
      show fetchSub s.inFlight = s.held + 0
      rw [fetchSub_eq (by omega) (by omega), heq, Nat.add_sub_cancel, Nat.add_zero]
    | _ => simp [Server.step, hloop] at hstep
  | spawn =>
    cases hloop : s.loop with
    | counted before =>
      simp only [Server.step, hloop, Option.ite_none_left_eq_some, Option.some.injEq] at hstep
      obtain ⟨hroom, rfl⟩ := hstep
      rw [hcounted hloop] at heq
      have hheld : held { s with loop := .accepting, tasks := s.tasks ++ [Serving.handling] }
          = s.held + 1 := by
        show (s.tasks ++ [Serving.handling]).countP Serving.holds = _
        rw [List.countP_append]
        rfl
      refine ⟨?_, ?_, by simp⟩
      · have hbefore := h.before before hloop
        rw [hheld]
        omega
      · rw [hheld]
        exact heq
    | _ => simp [Server.step, hloop] at hstep
  | finish task =>
    simp only [Server.step, Option.ite_none_right_eq_some, Option.some.injEq] at hstep
    obtain ⟨htask, rfl⟩ := hstep
    have hset := held_set htask .done
    have hheld : held { s with tasks := s.tasks.set task .done } = s.held :=
      Nat.add_right_cancel hset
    exact ⟨hheld.trans_le h.atMost, by rw [hheld]; exact heq,
      fun before hbefore => hheld.trans_le (h.before before hbefore)⟩
  | giveBack task =>
    simp only [Server.step, Option.ite_none_right_eq_some, Option.some.injEq] at hstep
    obtain ⟨htask, rfl⟩ := hstep
    have hheld : (s.tasks.set task .gone).countP Serving.holds + 1 = s.held :=
      held_set htask .gone
    refine ⟨?_, ?_, fun before hbefore => ?_⟩
    · exact (Nat.le_succ _).trans (hheld.trans_le h.atMost)
    · have hpos : 0 < s.inFlight := by omega
      have hsub := fetchSub_eq hpos (by omega)
      unfold pending at heq
      unfold held pending
      dsimp only
      rw [hsub]
      omega
    · exact (Nat.le_succ _).trans (hheld.trans_le (h.before before hbefore))

/-- **No slot is lost**: along any run of the server at most 32 connections
are served at once, and between two connections the counter is what they hold;
a connection is closed without a response if 32 others hold a slot as it is
counted, and served if fewer do. -/
theorem slots_are_not_lost {steps : List ServerStep}
    (hrun : Machine.run Server.step {} steps = some s) :
    s.held ≤ 32 ∧ (s.loop = .accepting ∨ s.loop = .stopped → s.inFlight = s.held)
      ∧ ∀ t, s.step .count = some t →
        ((t.step .refuse).isSome ↔ s.held = 32) ∧ ((t.step .spawn).isSome ↔ s.held < 32) := by
  have h : s.Counted := Machine.run_inv (fun h hstep => h.step hstep)
    { atMost := Nat.zero_le _, inFlight_eq := rfl, before := by simp } hrun
  have hmost : s.held ≤ 32 := h.atMost
  have heq := h.inFlight_eq
  refine ⟨hmost, fun hloop => ?_, fun t ht => ?_⟩
  · unfold pending at heq
    rcases hloop with hloop | hloop <;> rw [hloop] at heq <;> exact heq
  · simp only [Server.step, Option.ite_none_right_eq_some, Option.some.injEq] at ht
    obtain ⟨hloop, rfl⟩ := ht
    unfold pending at heq
    rw [hloop] at heq
    have hbefore : s.inFlight = s.held := heq
    simp only [Server.step, maxConcurrent, hbefore]
    by_cases hfull : 32 ≤ s.held
    · rw [if_pos hfull, if_pos hfull]
      exact ⟨iff_of_true rfl (by omega), iff_of_false (by simp) (by omega)⟩
    · rw [if_neg hfull, if_neg hfull]
      exact ⟨iff_of_false (by simp) (by omega), iff_of_true rfl (by omega)⟩

/-- The second of two connections. -/
theorem slots_are_not_lost_two :
    (Server.mk .accepted 1 false [.handling]).held ≤ 32 := by
  have hrun : Machine.run Server.step {} [.accept, .count, .spawn, .accept]
      = some (Server.mk .accepted 1 false [.handling]) := rfl
  exact (slots_are_not_lost hrun).1

end Server

end Prometheus

end WsBlast
