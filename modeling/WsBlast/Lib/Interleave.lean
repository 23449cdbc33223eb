import WsBlast.Lib.Proc

/-!
# Programs that run side by side

Several programs over the same questions run in any interleaving, on a world
that all of them share (`System`). `System.sound` reduces what holds of the
whole system to the programs one at a time: each program is followed by a
monitor of its own, and a relation between the world and the states of the
monitors has to say why the world's answers are among those the monitors take
for possible, and to be kept by every event.

The program of a process is a tree of questions, and what the world answers may
depend on everything the other processes have done. A proof about one process
cannot see those, so its monitor must allow for whatever the others may have
made the world answer; the relation `Fits` is where the two views are
reconciled.
-/

namespace Proc

variable {E : Type} {A : E → Type}

/-! ## Prefixes of a run

A process of a system is looked at while others have yet to move, so a run must
be a run at each of its moments, not only at its end. -/

/-- A run can be looked at after any of its events. -/
theorem Runs.of_append {R : Type} {p : Proc E A R} {trace rest : List (Event E A)}
    {result : Option R} (h : Runs p (trace ++ rest) result) : Runs p trace none := by
  generalize hwhole : trace ++ rest = whole at h
  induction h generalizing trace with
  | stop p =>
    rw [List.append_eq_nil_iff.mp hwhole |>.1]
    exact .stop p
  | done r =>
    rw [List.append_eq_nil_iff.mp hwhole |>.1]
    exact .stop _
  | vis a h ih =>
    cases trace with
    | nil => exact .stop _
    | cons event trace =>
      obtain ⟨rfl, hrest⟩ := List.cons.inj hwhole
      exact .vis a (ih hrest)
  | iter h ih =>
    cases trace with
    | nil => exact .stop _
    | cons event trace => exact .iter (ih hwhole)

namespace Monitor

variable {M : Type} (m : Monitor E A M)

theorem after_append (s : M) (trace rest : List (Event E A)) :
    m.after s (trace ++ rest) = m.after (m.after s trace) rest := List.foldl_append

theorem accepts_append (s : M) (trace rest : List (Event E A)) :
    m.Accepts s (trace ++ rest) ↔ m.Accepts s trace ∧ m.Accepts (m.after s trace) rest := by
  induction trace generalizing s with
  | nil => exact (iff_of_eq (true_and _)).symm
  | cons event trace ih =>
    show m.Admits s event ∧ m.Accepts (m.step s event) (trace ++ rest)
      ↔ (m.Admits s event ∧ m.Accepts (m.step s event) trace)
        ∧ m.Accepts (m.after (m.step s event) trace) rest
    rw [ih, and_assoc]

end Monitor

/-! ## Systems

The world is a state and two functions of it: which answers it can give, and
what an event does to it. -/

/-- A world that processes `ι` share. -/
structure System (ι : Type) (E : Type) (A : E → Type) (W : Type) where
  /-- What an event of a process does to the world. -/
  step : W → ι × Event E A → W
  /-- Whether the world gives this answer to this process. -/
  Admits : W → ι × Event E A → Prop

/-- The events of one process. -/
def ofProcess {ι : Type} [DecidableEq ι] (i : ι) (trace : List (ι × Event E A)) :
    List (Event E A) :=
  (trace.filter fun item => item.1 = i).map Prod.snd

namespace System

variable {ι W M : Type} (sys : System ι E A W)

/-- The world after a trace. -/
def after (w : W) (trace : List (ι × Event E A)) : W := trace.foldl sys.step w

/-- Every answer of the trace is one the world gives. -/
def Accepts : W → List (ι × Event E A) → Prop
  | _, [] => True
  | w, item :: rest => sys.Admits w item ∧ Accepts (sys.step w item) rest

/-- Whether the world gives all answers of a trace can be decided when it can
be decided for each. -/
instance decidableAccepts [∀ w item, Decidable (sys.Admits w item)] :
    (w : W) → (trace : List (ι × Event E A)) → Decidable (sys.Accepts w trace)
  | _, [] => .isTrue trivial
  | w, item :: rest =>
    have := decidableAccepts (sys.step w item) rest
    inferInstanceAs (Decidable (sys.Admits w item ∧ sys.Accepts (sys.step w item) rest))

theorem after_append (w : W) (trace rest : List (ι × Event E A)) :
    sys.after w (trace ++ rest) = sys.after (sys.after w trace) rest := List.foldl_append

theorem accepts_append (w : W) (trace rest : List (ι × Event E A)) :
    sys.Accepts w (trace ++ rest)
      ↔ sys.Accepts w trace ∧ sys.Accepts (sys.after w trace) rest := by
  induction trace generalizing w with
  | nil => exact (iff_of_eq (true_and _)).symm
  | cons item trace ih =>
    show sys.Admits w item ∧ sys.Accepts (sys.step w item) (trace ++ rest)
      ↔ (sys.Admits w item ∧ sys.Accepts (sys.step w item) trace)
        ∧ sys.Accepts (sys.after (sys.step w item) trace) rest
    rw [ih, and_assoc]

variable [DecidableEq ι]

theorem ofProcess_append_singleton (i j : ι) (trace : List (ι × Event E A)) (event : Event E A) :
    ofProcess i (trace ++ [(j, event)])
      = if j = i then ofProcess i trace ++ [event] else ofProcess i trace := by
  unfold ofProcess
  rw [List.filter_append, List.map_append]
  by_cases h : j = i
  · rw [if_pos h]
    simp [h]
  · rw [if_neg h]
    simp [h]

/-- The monitors of the processes after a trace. -/
def monitors (m : Monitor E A M) (init : ι → M) (trace : List (ι × Event E A)) (i : ι) : M :=
  m.after (init i) (ofProcess i trace)

/-- One more event moves on the monitor of its process. -/
theorem monitors_append_singleton (m : Monitor E A M) (init : ι → M)
    (trace : List (ι × Event E A)) (i : ι) (event : Event E A) :
    monitors m init (trace ++ [(i, event)])
      = Function.update (monitors m init trace) i (m.step (monitors m init trace i) event) := by
  funext j
  unfold monitors
  rw [ofProcess_append_singleton]
  by_cases h : i = j
  · subst h
    rw [if_pos rfl, Function.update_self, m.after_append]
    rfl
  · rw [if_neg h, Function.update_of_ne (Ne.symm h)]

/-- What a quantity of every process and its monitor adds up to, when both
change for one process. -/
theorem sum_update_update [Fintype ι] {P : Type} (g : P → M → ℕ) (ps : ι → P) (ms : ι → M) (i : ι)
    (p : P) (s : M) :
    ∑ j, g (Function.update ps i p j) (Function.update ms i s j) + g (ps i) (ms i)
      = ∑ j, g (ps j) (ms j) + g p s := by
  rw [← Finset.add_sum_erase _ _ (Finset.mem_univ i), ← Finset.add_sum_erase _ _ (Finset.mem_univ i),
    Function.update_self, Function.update_self]
  have hrest : ∑ j ∈ Finset.univ.erase i, g (Function.update ps i p j) (Function.update ms i s j)
      = ∑ j ∈ Finset.univ.erase i, g (ps j) (ms j) := by
    refine Finset.sum_congr rfl fun j hj => ?_
    rw [Function.update_of_ne (Finset.ne_of_mem_erase hj),
      Function.update_of_ne (Finset.ne_of_mem_erase hj)]
  rw [hrest]
  ring

/-- The world and the monitors of its processes fit together: the world gives
only answers the monitors take for possible, and every event that leaves its
monitor safe keeps them fitting. -/
structure Fits (m : Monitor E A M) (fits : W → (ι → M) → Prop) : Prop where
  admits : ∀ {w ms i event}, fits w ms → sys.Admits w (i, event) → m.Admits (ms i) event
  step : ∀ {w ms i event}, fits w ms → sys.Admits w (i, event) → m.Safe (m.step (ms i) event) →
    fits (sys.step w (i, event)) (Function.update ms i (m.step (ms i) event))

/-- **One process at a time**: in every run of the system, every monitor is
safe, a process that has ended is in its postcondition, and the world fits the
monitors. -/
theorem sound {R : Type} {m : Monitor E A M} {fits : W → (ι → M) → Prop} (hfits : sys.Fits m fits)
    {p : ι → Proc E A R} {post : ι → R → M → Prop} {init : ι → M} {w : W}
    (hinit : fits w init) (hsafe : ∀ i, m.Safe (init i))
    (hwp : ∀ i, m.wp (p i) (post i) (init i))
    {trace : List (ι × Event E A)} {result : ι → Option R}
    (haccept : sys.Accepts w trace) (hruns : ∀ i, Runs (p i) (ofProcess i trace) (result i)) :
    fits (sys.after w trace) (monitors m init trace)
      ∧ ∀ i, m.Safe (monitors m init trace i)
        ∧ ∀ r ∈ result i, post i r (monitors m init trace i) := by
  -- by induction on the trace, from its end: what the monitors accept up to
  -- here makes them safe, and being safe lets them fit after the next event
  have hlocal : fits (sys.after w trace) (monitors m init trace)
      ∧ ∀ i, m.Accepts (init i) (ofProcess i trace) := by
    induction trace using List.reverseRecOn generalizing result with
    | nil => exact ⟨hinit, fun _ => trivial⟩
    | append_singleton trace item ih =>
      obtain ⟨j, event⟩ := item
      obtain ⟨hbefore, hadmits, -⟩ := (sys.accepts_append w trace [(j, event)]).mp haccept
      have hprefix : ∀ i, Runs (p i) (ofProcess i trace) none := by
        intro i
        have hrun := hruns i
        rw [ofProcess_append_singleton] at hrun
        by_cases h : j = i
        · rw [if_pos h] at hrun
          exact hrun.of_append
        · rw [if_neg h] at hrun
          rw [← List.append_nil (ofProcess i trace)] at hrun
          exact hrun.of_append
      obtain ⟨hfit, haccepts⟩ := ih hbefore hprefix
      have hadmit : m.Admits (monitors m init trace j) event := hfits.admits hfit hadmits
      have hnext : ∀ i, m.Accepts (init i) (ofProcess i (trace ++ [(j, event)])) := by
        intro i
        rw [ofProcess_append_singleton]
        by_cases h : j = i
        · subst h
          rw [if_pos rfl, m.accepts_append]
          exact ⟨haccepts j, hadmit, trivial⟩
        · rw [if_neg h]
          exact haccepts i
      refine ⟨?_, hnext⟩
      rw [sys.after_append, monitors_append_singleton]
      refine hfits.step hfit hadmits ?_
      have hsafe' := (m.wp_sound (hruns j) (hsafe j) (hwp j) (hnext j)).1
      rw [ofProcess_append_singleton, if_pos rfl, m.after_append] at hsafe'
      exact hsafe'
  exact ⟨hlocal.1, fun i => m.wp_sound (hruns i) (hsafe i) (hwp i) (hlocal.2 i)⟩

end System

end Proc
