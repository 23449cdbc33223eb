import Mathlib

/-!
# Programs that ask their environment

A `Proc E A R` is a program that returns an `R` and, on its way, asks its
environment questions `e : E`, each answered by an `A e`. Whatever the
program cannot decide by itself is a question: the time, the result of a
send, which branch of a wait came first. Loops that need not end are a
constructor of their own (`iter`), so that a program is a finite tree.

* `Runs p trace result` says that `p` can produce `trace`, the list of
  questions with the answers they got; `result` is `none` for a run that is
  still going, so the runs of a program include every moment of it.
* A `Monitor` reads a trace event by event. `Monitor.wp` is the weakest
  precondition of a program for the monitor's final state, with the
  requirement that the monitor is `Safe` at every moment, and
  `Monitor.wp_sound` carries it over to every run.
* `Step` adds the ways out of a loop: a `Step X S` either goes on with an `S`
  or leaves with an `X`. `forever` repeats it until it leaves, `repeatUntil`
  until it leaves or is done.
* `Monitor.Triple` and `Monitor.StepTriple` state preconditions and
  postconditions, with one rule for each way to build a program.
* `Monitor.history` reads a trace into the list of its events, and
  `Monitor.history_sound` says of every event of a run what it is after the
  events before it, and `Monitor.history_result` what the run ends with.
* `Within P p` says that `p` asks only questions of `P`; what every such
  question keeps, `p` keeps (`Triple.of_within`).
* `run` executes a program against given answers.

Why trees and not a step relation on program counters: the programs that are
modelled are written as nested loops with early exits, and a tree keeps that
shape. The definition of a loop in the model can be laid beside the source, and
a proof about it is built along the same nesting, one rule for each construct.
An `async` function is such a tree as well; where it awaits, it asks.
-/

/-- A program that asks questions `e : E`, answered in `A e`. -/
inductive Proc (E : Type) (A : E → Type) : Type → Type 1 where
  /-- Return a value. -/
  | pure {R : Type} (r : R) : Proc E A R
  /-- Ask `e` and go on with the answer. -/
  | vis {R : Type} (e : E) (k : A e → Proc E A R) : Proc E A R
  /-- Repeat `body`, from state `s`, until it gives a `T`. -/
  | iter {S T R : Type} (body : S → Proc E A (S ⊕ T)) (s : S) (k : T → Proc E A R) :
      Proc E A R

namespace Proc

variable {E : Type} {A : E → Type} {R T : Type}

/-- A question together with the answer it got. -/
abbrev Event (E : Type) (A : E → Type) : Type := Σ e : E, A e

/-- One program after another. The continuation is pushed to the leaves of the
tree. -/
def bind {R T : Type} : Proc E A R → (R → Proc E A T) → Proc E A T
  | .pure r, f => f r
  | .vis e k, f => .vis e fun a => bind (k a) f
  | .iter body s k, f => .iter body s fun t => bind (k t) f

instance : Monad (Proc E A) where
  pure := .pure
  bind := bind

/-- Ask one question. -/
def ask (e : E) : Proc E A (A e) := .vis e .pure

/-- Repeat `body` until it gives a `T`. -/
def loop {S : Type} (body : S → Proc E A (S ⊕ T)) (s : S) : Proc E A T := .iter body s .pure

/-- What one turn of a loop is followed by. -/
def unroll {S : Type} (body : S → Proc E A (S ⊕ T)) (s : S) (k : T → Proc E A R) : Proc E A R :=
  bind (body s) (Sum.elim (fun s => .iter body s k) k)

/-! ## Runs

Big steps: a run is a whole trace with what came of it. -/

/-- `Runs p trace result`: the program can ask and be answered as in `trace`
and then be done with `some` result, or still be on its way. -/
inductive Runs : {R : Type} → Proc E A R → List (Event E A) → Option R → Prop where
  /-- Looked at before it does anything more. -/
  | stop {R : Type} (p : Proc E A R) : Runs p [] none
  /-- A program that returns is done. -/
  | done {R : Type} (r : R) : Runs (.pure r) [] (some r)
  /-- A question and any answer to it, followed by a run of what comes next. -/
  | vis {R : Type} {e : E} {k : A e → Proc E A R} {trace : List (Event E A)}
      {result : Option R} (a : A e) (h : Runs (k a) trace result) :
      Runs (.vis e k) (⟨e, a⟩ :: trace) result
  /-- A loop runs as one turn of it, and the loop again if the turn says so. -/
  | iter {S T R : Type} {body : S → Proc E A (S ⊕ T)} {s : S} {k : T → Proc E A R}
      {trace : List (Event E A)} {result : Option R} (h : Runs (unroll body s k) trace result) :
      Runs (.iter body s k) trace result

/-- What a run did so far is a run. -/
theorem Runs.cut {p : Proc E A R} {before after : List (Event E A)} {result : Option R}
    (h : Runs p (before ++ after) result) : Runs p before none := by
  generalize htrace : before ++ after = trace at h
  induction h generalizing before with
  | stop p =>
    rw [(List.append_eq_nil_iff.mp htrace).1]
    exact .stop p
  | done r =>
    rw [(List.append_eq_nil_iff.mp htrace).1]
    exact .stop _
  | vis a h ih =>
    cases before with
    | nil => exact .stop _
    | cons event rest =>
      obtain ⟨rfl, hrest⟩ := List.cons.inj htrace
      exact .vis a (ih hrest)
  | iter h ih => exact .iter (ih htrace)

/-- Executes a program against the answers of `answer`, which is told how
many questions came before, for at most `fuel` steps. -/
def run (answer : ℕ → (e : E) → A e) : ℕ → ℕ → Proc E A R → List (Event E A) × Option R
  | 0, _, _ => ([], none)
  | _ + 1, _, .pure r => ([], some r)
  | fuel + 1, n, .vis e k =>
    let rest := run answer fuel (n + 1) (k (answer n e))
    (⟨e, answer n e⟩ :: rest.1, rest.2)
  | fuel + 1, n, .iter body s k => run answer fuel n (unroll body s k)

/-- An execution is one of the program's runs. -/
theorem runs_run (answer : ℕ → (e : E) → A e) (fuel n : ℕ) (p : Proc E A R) :
    Runs p (run answer fuel n p).1 (run answer fuel n p).2 := by
  induction fuel generalizing n p with
  | zero => exact .stop p
  | succ fuel ih =>
    cases p with
    | pure r => exact .done r
    | vis e k => exact .vis _ (ih _ _)
    | iter body s k => exact .iter (ih _ _)

/-! ## Monitors

A monitor is what a property of traces is stated with. -/

/-- Something that reads a trace: a state that every event moves on, the
answers it takes for possible, and the states in which nothing is wrong. -/
structure Monitor (E : Type) (A : E → Type) (M : Type) where
  /-- What an event makes of the state. -/
  step : M → Event E A → M
  /-- The answers that are taken for possible where they come. This is where
  what is known of the environment goes in. -/
  Admits : M → Event E A → Prop
  /-- Nothing is wrong yet. -/
  Safe : M → Prop

namespace Monitor

variable {M : Type} (m : Monitor E A M)

/-- The state after a trace. -/
def after (s : M) (trace : List (Event E A)) : M := trace.foldl m.step s

/-- Every answer of the trace is possible where it comes. -/
def Accepts : M → List (Event E A) → Prop
  | _, [] => True
  | s, event :: rest => m.Admits s event ∧ Accepts (m.step s event) rest

/-- Whether the answers of a trace are possible can be decided when it can be
decided for each, so that a given trace can be checked by evaluation. -/
instance decidableAccepts [∀ s event, Decidable (m.Admits s event)] :
    ∀ (s : M) (trace : List (Event E A)), Decidable (m.Accepts s trace)
  | _, [] => isTrue trivial
  | s, event :: rest =>
    let _ := decidableAccepts (m.step s event) rest
    inferInstanceAs (Decidable (m.Admits s event ∧ m.Accepts (m.step s event) rest))

/-- A monitor that takes every answer for possible accepts every trace. -/
theorem accepts_of_admits (h : ∀ s event, m.Admits s event) (s : M) (trace : List (Event E A)) :
    m.Accepts s trace := by
  induction trace generalizing s with
  | nil => trivial
  | cons event rest ih => exact ⟨h s event, ih _⟩

/-- The weakest precondition of a program: from `s`, the monitor is safe
after every event, and the program ends only where `post` holds. A loop needs
an invariant. -/
def wp : {R : Type} → Proc E A R → (R → M → Prop) → M → Prop
  | _, .pure r, post, s => post r s
  | _, .vis e k, post, s => ∀ a, m.Admits s ⟨e, a⟩ →
      m.Safe (m.step s ⟨e, a⟩) ∧ wp (k a) post (m.step s ⟨e, a⟩)
  | _, .iter (S := S) body x k, post, s => ∃ inv : S → M → Prop, inv x s ∧
      ∀ x s, inv x s → wp (body x) (Sum.elim inv fun t => wp (k t) post) s

/-- A weaker postcondition is easier to reach. -/
theorem wp_mono {p : Proc E A R} {post post' : R → M → Prop} {s : M}
    (h : ∀ r s, post r s → post' r s) (hp : m.wp p post s) : m.wp p post' s := by
  induction p generalizing s with
  | pure r => exact h r s hp
  | vis e k ih => exact fun a ha => ⟨(hp a ha).1, ih a h (hp a ha).2⟩
  | iter body x k ihBody ihK =>
    obtain ⟨inv, hinv, hbody⟩ := hp
    refine ⟨inv, hinv, fun x s hx => ihBody x ?_ (hbody x s hx)⟩
    rintro (x' | t) s hs
    · exact hs
    · exact ihK t h hs

/-- **Sequencing**: the first program has to reach a state from which the
second one is fine. -/
theorem wp_bind (p : Proc E A R) (f : R → Proc E A T) (post : T → M → Prop) (s : M) :
    m.wp (p >>= f) post s ↔ m.wp p (fun r => m.wp (f r) post) s := by
  show m.wp (Proc.bind p f) post s ↔ _
  induction p generalizing s with
  | pure r => exact Iff.rfl
  | vis e k ih =>
    constructor
    · intro h a ha
      exact ⟨(h a ha).1, (ih a _ _).mp (h a ha).2⟩
    · intro h a ha
      exact ⟨(h a ha).1, (ih a _ _).mpr (h a ha).2⟩
  | iter body x k ihBody ihK =>
    constructor
    · rintro ⟨inv, hinv, hbody⟩
      refine ⟨inv, hinv, fun x s hx => wp_mono m ?_ (hbody x s hx)⟩
      rintro (x' | t) s hs
      · exact hs
      · exact (ihK t _ _).mp hs
    · rintro ⟨inv, hinv, hbody⟩
      refine ⟨inv, hinv, fun x s hx => wp_mono m ?_ (hbody x s hx)⟩
      rintro (x' | t) s hs
      · exact hs
      · exact (ihK t _ _).mpr hs

/-- **The loop rule**: an invariant that every turn keeps until the loop is
left. -/
theorem wp_loop {S : Type} {body : S → Proc E A (S ⊕ T)} {post : T → M → Prop}
    (inv : S → M → Prop) {x : S} {s : M} (hinit : inv x s)
    (hbody : ∀ x s, inv x s → m.wp (body x) (Sum.elim inv post) s) :
    m.wp (Proc.loop body x) post s :=
  ⟨inv, hinit, hbody⟩

/-- A turn of a loop keeps the loop's precondition. -/
theorem wp_unroll {S : Type} {body : S → Proc E A (S ⊕ T)} {x : S} {k : T → Proc E A R}
    {post : R → M → Prop} {s : M} (h : m.wp (.iter body x k) post s) :
    m.wp (Proc.unroll body x k) post s := by
  obtain ⟨inv, hinv, hbody⟩ := h
  refine (wp_bind m (body x) _ post s).mpr (wp_mono m ?_ (hbody x s hinv))
  rintro (x' | t) s hs
  · exact ⟨inv, hs, hbody⟩
  · exact hs

/-- **What the precondition promises holds of every run**: the monitor is
safe at every moment, and where the program ends its postcondition holds. -/
theorem wp_sound {p : Proc E A R} {trace : List (Event E A)} {result : Option R}
    (hrun : Runs p trace result) {post : R → M → Prop} {s : M} (hsafe : m.Safe s)
    (hwp : m.wp p post s) (haccept : m.Accepts s trace) :
    m.Safe (m.after s trace) ∧ ∀ r ∈ result, post r (m.after s trace) := by
  induction hrun generalizing s with
  | stop p => exact ⟨hsafe, nofun⟩
  | done r =>
    refine ⟨hsafe, ?_⟩
    rintro r' ⟨⟩
    exact hwp
  | vis a h ih =>
    obtain ⟨hsafe', hrest⟩ := hwp a haccept.1
    exact ih hsafe' hrest haccept.2
  | iter h ih => exact ih hsafe (wp_unroll m hwp) haccept

end Monitor

/-! ## Ways out of a loop

A body of Rust code can `break`, `return` or use `?` in its middle. -/

/-- A piece of a loop's body: it goes on with an `S`, or leaves the loop with
an `X`. -/
abbrev Step (E : Type) (A : E → Type) (X S : Type) : Type 1 := ExceptT X (Proc E A) S

/-- Repeats a body until it leaves. -/
def forever {X S : Type} (body : S → Step E A X S) (s : S) : Proc E A X :=
  loop (fun s => do
    match ← (body s).run with
    | .ok s => pure (.inl s)
    | .error x => pure (.inr x)) s

/-- Repeats a body until it leaves or is done. -/
def repeatUntil {X S T : Type} (body : S → Step E A X (S ⊕ T)) (s : S) : Step E A X T :=
  ExceptT.mk (loop (fun s => do
    match ← (body s).run with
    | .ok (.inl s) => pure (.inl s)
    | .ok (.inr t) => pure (.inr (.ok t))
    | .error x => pure (.inr (.error x))) s)

namespace Monitor

variable {M : Type} (m : Monitor E A M) {X S : Type}

/-- The weakest precondition of a piece of a loop, with one postcondition for
going on and one for leaving. -/
def wps (p : Step E A X S) (post : S → M → Prop) (leave : X → M → Prop) (s : M) : Prop :=
  m.wp p.run (fun r => match r with | .ok x => post x | .error x => leave x) s

theorem wps_mono {p : Step E A X S} {post post' : S → M → Prop} {leave : X → M → Prop} {s : M}
    (h : ∀ x s, post x s → post' x s) (hp : m.wps p post leave s) : m.wps p post' leave s := by
  refine m.wp_mono ?_ hp
  rintro (x | x) s hs
  · exact hs
  · exact h x s hs

theorem wps_bind {S' : Type} (p : Step E A X S) (f : S → Step E A X S')
    (post : S' → M → Prop) (leave : X → M → Prop) (s : M) :
    m.wps (p >>= f) post leave s ↔ m.wps p (fun x => m.wps (f x) post leave) leave s := by
  show m.wp (p.run >>= fun r => ExceptT.bindCont f r) _ s ↔ m.wp p.run _ s
  rw [m.wp_bind]
  have hcont : (fun r => m.wp (ExceptT.bindCont f r)
        (fun r => match r with | .ok x => post x | .error x => leave x))
      = fun r => match r with
        | .ok x => m.wps (f x) post leave
        | .error x => leave x := by
    funext r
    cases r with
    | ok x => rfl
    | error x => rfl
  rw [hcont]

/-- A program that cannot leave, as a piece of a loop. -/
theorem wps_lift (p : Proc E A S) (post : S → M → Prop) (leave : X → M → Prop) (s : M) :
    m.wps (liftM p : Step E A X S) post leave s ↔ m.wp p post s := by
  show m.wp (p >>= fun x => (Pure.pure (Except.ok x) : Proc E A (Except X S))) _ s ↔ _
  rw [m.wp_bind]
  exact Iff.rfl

/-- **Leaving a loop**: an invariant that every turn keeps, and a
postcondition that every way out establishes. -/
theorem wp_forever {body : S → Step E A X S} (inv : S → M → Prop) {leave : X → M → Prop}
    {x : S} {s : M} (hinit : inv x s) (hbody : ∀ x s, inv x s → m.wps (body x) inv leave s) :
    m.wp (forever body x) leave s := by
  refine m.wp_loop inv hinit fun x s hx => (m.wp_bind _ _ _ s).mpr (m.wp_mono ?_ (hbody x s hx))
  rintro (r | r) s hs
  · exact hs
  · exact hs

/-- Leaving a loop or being done with it. -/
theorem wps_repeatUntil {body : S → Step E A X (S ⊕ T)} (inv : S → M → Prop)
    {post : T → M → Prop} {leave : X → M → Prop} {x : S} {s : M} (hinit : inv x s)
    (hbody : ∀ x s, inv x s → m.wps (body x) (Sum.elim inv post) leave s) :
    m.wps (repeatUntil body x) post leave s := by
  refine m.wp_loop inv hinit fun x s hx => (m.wp_bind _ _ _ s).mpr (m.wp_mono ?_ (hbody x s hx))
  rintro (r | r | r) s hs
  · exact hs
  · exact hs
  · exact hs

/-! ## Pre- and postconditions

The rules below are what proofs about programs are written with; `wp` itself is
not unfolded outside this module. -/

/-- From every state of `pre`, the program is safe and ends only in states of
`post`. -/
def Triple (pre : M → Prop) (p : Proc E A R) (post : R → M → Prop) : Prop :=
  ∀ s, pre s → m.wp p post s

/-- The same for a piece of a loop, which may also leave in a state of
`leave`. -/
def StepTriple (pre : M → Prop) (p : Step E A X S) (post : S → M → Prop) (leave : X → M → Prop) :
    Prop :=
  ∀ s, pre s → m.wps p post leave s

variable {m} {pre : M → Prop}

namespace Triple

theorem pure {r : R} {post : R → M → Prop} (h : ∀ s, pre s → post r s) :
    m.Triple pre (Pure.pure r) post := h

theorem bind {p : Proc E A R} {f : R → Proc E A T} {mid : R → M → Prop} {post : T → M → Prop}
    (hp : m.Triple pre p mid) (hf : ∀ r, m.Triple (mid r) (f r) post) :
    m.Triple pre (p >>= f) post :=
  fun s hs => (m.wp_bind p f post s).mpr (m.wp_mono (fun r s hr => hf r s hr) (hp s hs))

theorem weaken {p : Proc E A R} {pre' : M → Prop} {post post' : R → M → Prop}
    (hp : m.Triple pre' p post') (hpre : ∀ s, pre s → pre' s)
    (hpost : ∀ r s, post' r s → post r s) : m.Triple pre p post :=
  fun s hs => m.wp_mono hpost (hp s (hpre s hs))

theorem ite {c : Prop} [Decidable c] {p q : Proc E A R} {post : R → M → Prop}
    (hp : c → m.Triple pre p post) (hq : ¬c → m.Triple pre q post) :
    m.Triple pre (if c then p else q) post := by
  by_cases h : c
  · rw [if_pos h]
    exact hp h
  · rw [if_neg h]
    exact hq h

/-- A question that the monitor does not react to. -/
theorem ask_of_silent {e : E} (hsafe : ∀ s, pre s → m.Safe s)
    (hstep : ∀ s a, m.step s ⟨e, a⟩ = s) : m.Triple pre (Proc.ask e) fun _ => pre := by
  intro s hs a _
  show m.Safe (m.step s ⟨e, a⟩) ∧ pre (m.step s ⟨e, a⟩)
  rw [hstep]
  exact ⟨hsafe s hs, hs⟩

/-- A question, by what the monitor makes of each possible answer. -/
theorem ask {e : E} {post : A e → M → Prop}
    (h : ∀ s a, pre s → m.Admits s ⟨e, a⟩ →
      m.Safe (m.step s ⟨e, a⟩) ∧ post a (m.step s ⟨e, a⟩)) :
    m.Triple pre (Proc.ask e) post :=
  fun s hs a ha => h s a hs ha

theorem loop (inv : S → M → Prop) {body : S → Proc E A (S ⊕ T)} {post : T → M → Prop} {x : S}
    (hbody : ∀ x, m.Triple (inv x) (body x) (Sum.elim inv post)) :
    m.Triple (inv x) (Proc.loop body x) post :=
  fun _ hs => m.wp_loop inv hs fun x s hx => hbody x s hx

theorem forever (inv : S → M → Prop) {body : S → Step E A X S} {leave : X → M → Prop} {x : S}
    (hbody : ∀ x, m.StepTriple (inv x) (body x) inv leave) :
    m.Triple (inv x) (Proc.forever body x) leave :=
  fun _ hs => m.wp_forever inv hs fun x s hx => hbody x s hx

/-- A piece of a loop run by itself. -/
theorem run {p : Step E A X S} {post : S → M → Prop} {leave : X → M → Prop}
    (hp : m.StepTriple pre p post leave) :
    m.Triple pre p.run fun r => match r with | .ok x => post x | .error x => leave x := hp

end Triple

namespace StepTriple

variable {post : S → M → Prop} {leave : X → M → Prop}

theorem pure {x : S} (h : ∀ s, pre s → post x s) :
    m.StepTriple pre (Pure.pure x) post leave := h

theorem throw {x : X} (h : ∀ s, pre s → leave x s) :
    m.StepTriple pre (throw x : Step E A X S) post leave := h

theorem lift {p : Proc E A S} (hp : m.Triple pre p post) :
    m.StepTriple pre (liftM p : Step E A X S) post leave :=
  fun s hs => (m.wps_lift p post leave s).mpr (hp s hs)

theorem bind {S' : Type} {p : Step E A X S'} {f : S' → Step E A X S} {mid : S' → M → Prop}
    (hp : m.StepTriple pre p mid leave) (hf : ∀ x, m.StepTriple (mid x) (f x) post leave) :
    m.StepTriple pre (p >>= f) post leave :=
  fun s hs => (m.wps_bind p f post leave s).mpr (m.wps_mono (fun x s hx => hf x s hx) (hp s hs))

theorem weaken {p : Step E A X S} {pre' : M → Prop} {post' : S → M → Prop}
    (hp : m.StepTriple pre' p post' leave) (hpre : ∀ s, pre s → pre' s)
    (hpost : ∀ x s, post' x s → post x s) : m.StepTriple pre p post leave :=
  fun s hs => m.wps_mono hpost (hp s (hpre s hs))

theorem ite {c : Prop} [Decidable c] {p q : Step E A X S}
    (hp : c → m.StepTriple pre p post leave) (hq : ¬c → m.StepTriple pre q post leave) :
    m.StepTriple pre (if c then p else q) post leave := by
  by_cases h : c
  · rw [if_pos h]
    exact hp h
  · rw [if_neg h]
    exact hq h

theorem repeatUntil {T : Type} (inv : S → M → Prop) {body : S → Step E A X (S ⊕ T)}
    {done : T → M → Prop} {x : S}
    (hbody : ∀ x, m.StepTriple (inv x) (body x) (Sum.elim inv done) leave) :
    m.StepTriple (inv x) (Proc.repeatUntil body x) done leave :=
  fun _ hs => m.wps_repeatUntil inv hs fun x s hx => hbody x s hx

end StepTriple

end Monitor

/-! ## Which questions a program asks

Long programs touch a given part of a monitor's state in few places. -/

/-- The program asks only questions of `P`. -/
def Within (P : E → Prop) : {R : Type} → Proc E A R → Prop
  | _, .pure _ => True
  | _, .vis e k => P e ∧ ∀ a, Within P (k a)
  | _, .iter (S := S) body _ k => (∀ s : S, Within P (body s)) ∧ ∀ t, Within P (k t)

namespace Within

variable {P : E → Prop}

theorem pure {r : R} : Within P (Pure.pure r : Proc E A R) := trivial

/-- One question. -/
theorem ask {e : E} (he : P e) : Within P (Proc.ask (A := A) e) := ⟨he, fun _ => trivial⟩

theorem bind {p : Proc E A R} {f : R → Proc E A T} (hp : Within P p)
    (hf : ∀ r, Within P (f r)) : Within P (p >>= f) := by
  show Within P (Proc.bind p f)
  induction p with
  | pure r => exact hf r
  | vis e k ih => exact ⟨hp.1, fun a => ih a (hp.2 a) hf⟩
  | iter body s k ihBody ihK => exact ⟨hp.1, fun t => ihK t (hp.2 t) hf⟩

theorem loop {S : Type} {body : S → Proc E A (S ⊕ T)} {s : S} (hbody : ∀ s, Within P (body s)) :
    Within P (Proc.loop body s) := ⟨hbody, fun _ => trivial⟩

theorem ite {c : Prop} [Decidable c] {p q : Proc E A R} (hp : c → Within P p)
    (hq : ¬c → Within P q) : Within P (if c then p else q) := by
  by_cases h : c
  · rw [if_pos h]
    exact hp h
  · rw [if_neg h]
    exact hq h

end Within

/-- A piece of a loop asks only questions of `P`. -/
def StepWithin {X S : Type} (P : E → Prop) (p : Step E A X S) : Prop := Within P p.run

namespace StepWithin

variable {P : E → Prop} {X S S' : Type}

theorem pure {x : S} : StepWithin P (Pure.pure x : Step E A X S) := trivial

theorem throw {x : X} : StepWithin P (throw x : Step E A X S) := trivial

theorem lift {p : Proc E A S} (hp : Within P p) : StepWithin P (liftM p : Step E A X S) := by
  show Within P (p >>= fun x => (Pure.pure (Except.ok x) : Proc E A (Except X S)))
  exact Within.bind hp fun _ => trivial

theorem bind {p : Step E A X S'} {f : S' → Step E A X S} (hp : StepWithin P p)
    (hf : ∀ x, StepWithin P (f x)) : StepWithin P (p >>= f) := by
  show Within P (p.run >>= fun r => ExceptT.bindCont f r)
  refine Within.bind hp fun r => ?_
  cases r with
  | ok x => exact hf x
  | error x => trivial

theorem ite {c : Prop} [Decidable c] {p q : Step E A X S} (hp : c → StepWithin P p)
    (hq : ¬c → StepWithin P q) : StepWithin P (if c then p else q) := by
  by_cases h : c
  · rw [if_pos h]
    exact hp h
  · rw [if_neg h]
    exact hq h

end StepWithin

namespace Monitor

variable {M : Type} {m : Monitor E A M} {X S : Type} {pre : M → Prop} {P : E → Prop}

/-- **What every question of a program keeps, the program keeps.** -/
theorem Triple.of_within {p : Proc E A R} (hp : Within P p)
    (hkeep : ∀ s e a, P e → pre s → m.Admits s ⟨e, a⟩ →
      m.Safe (m.step s ⟨e, a⟩) ∧ pre (m.step s ⟨e, a⟩)) :
    m.Triple pre p fun _ => pre := by
  intro s hs
  induction p generalizing s with
  | pure r => exact hs
  | vis e k ih =>
    intro a ha
    obtain ⟨hsafe, hpre⟩ := hkeep s e a hp.1 hs ha
    exact ⟨hsafe, ih a (hp.2 a) _ hpre⟩
  | iter body x k ihBody ihK =>
    refine ⟨fun _ => pre, hs, fun x s hs => m.wp_mono ?_ (ihBody x (hp.1 x) s hs)⟩
    rintro (x' | t) s hs
    · exact hs
    · exact ihK t (hp.2 t) s hs

theorem StepTriple.of_within {p : Step E A X S} (hp : StepWithin P p)
    (hkeep : ∀ s e a, P e → pre s → m.Admits s ⟨e, a⟩ →
      m.Safe (m.step s ⟨e, a⟩) ∧ pre (m.step s ⟨e, a⟩)) {leave : X → M → Prop}
    (hleave : ∀ x s, pre s → leave x s) : m.StepTriple pre p (fun _ => pre) leave := by
  intro s hs
  refine m.wp_mono ?_ (Triple.of_within hp hkeep s hs)
  rintro (x | x) s hs
  · exact hleave x s hs
  · exact hs

/-! ## Histories

For some properties no summary of the past is shorter than the past itself. -/

/-- What one more event adds to a reading of a history. -/
theorem filterMap_snoc {B C : Type} (f : B → Option C) (past : List B) (event : B) :
    (past ++ [event]).filterMap f = past.filterMap f ++ (f event).toList := by
  rw [List.filterMap_append]
  cases h : f event with
  | none => rw [List.filterMap_cons_none h, List.filterMap_nil, Option.toList_none]
  | some c => rw [List.filterMap_cons_some h, List.filterMap_nil, Option.toList_some]

/-- The history so far as a monitor: each event has to be `Fine` after the
events before it. -/
def history (Fine : List (Event E A) → Event E A → Prop) :
    Monitor E A (List (Event E A)) where
  step := fun past event => past ++ [event]
  Admits := fun _ _ => True
  Safe := fun past => ∀ before event, past = before ++ [event] → Fine before event

section History

variable {Fine : List (Event E A) → Event E A → Prop}

theorem history_safe_snoc {past : List (Event E A)} {event : Event E A} :
    (history Fine).Safe (past ++ [event]) ↔ Fine past event := by
  constructor
  · exact fun h => h past event rfl
  · intro h before event' heq
    obtain ⟨rfl, hevent⟩ := List.append_inj' heq rfl
    exact List.head_eq_of_cons_eq hevent ▸ h

theorem history_safe_nil : (history Fine).Safe [] := fun past event heq =>
  absurd heq.symm (List.append_ne_nil_of_right_ne_nil past (List.cons_ne_nil event []))

/-- A history of fine events with one more: the last is fine, and those before
it are a history of fine events. -/
theorem fine_of_snoc {past : List (Event E A)} {last : Event E A}
    (h : ∀ before event after, past ++ [last] = before ++ event :: after → Fine before event) :
    (∀ before event after, past = before ++ event :: after → Fine before event)
      ∧ Fine past last := by
  refine ⟨fun before event after heq => h before event (after ++ [last]) ?_, h past last [] rfl⟩
  rw [heq, List.append_assoc, List.cons_append]

@[simp] theorem history_after (past trace : List (Event E A)) :
    (history Fine).after past trace = past ++ trace := by
  induction trace generalizing past with
  | nil => exact (List.append_nil past).symm
  | cons event rest ih =>
    show (history Fine).after (past ++ [event]) rest = past ++ event :: rest
    rw [ih, List.append_assoc, List.singleton_append]

/-- A question whose answer is fine, and what it adds to the history. -/
theorem Triple.ask_history {pre : List (Event E A) → Prop} {e : E}
    {post : A e → List (Event E A) → Prop}
    (h : ∀ past a, pre past → Fine past ⟨e, a⟩ ∧ post a (past ++ [⟨e, a⟩])) :
    (history Fine).Triple pre (Proc.ask e) post :=
  Triple.ask fun past a hpre _ =>
    ⟨history_safe_snoc.mpr (h past a hpre).1, (h past a hpre).2⟩

/-- **Every event of a run is fine after the events before it.** -/
theorem history_sound {p : Proc E A R} {pre : List (Event E A) → Prop}
    {post : R → List (Event E A) → Prop} (hp : (history Fine).Triple pre p post) (hpre : pre [])
    {trace : List (Event E A)} {result : Option R} (hrun : Runs p trace result)
    {before : List (Event E A)} {event : Event E A} {after : List (Event E A)}
    (htrace : trace = before ++ event :: after) : Fine before event := by
  have hcut : Runs p (before ++ [event]) none := by
    rw [htrace, List.append_cons] at hrun
    exact hrun.cut
  have haccepts := (history Fine).accepts_of_admits (fun _ _ => trivial) [] (before ++ [event])
  have hsafe := (wp_sound (history Fine) hcut history_safe_nil (hp [] hpre) haccepts).1
  rw [history_after, List.nil_append] at hsafe
  exact history_safe_snoc.mp hsafe

/-- What a program ends with, after its whole history. -/
theorem history_result {p : Proc E A R} {pre : List (Event E A) → Prop}
    {post : R → List (Event E A) → Prop} (hp : (history Fine).Triple pre p post) (hpre : pre [])
    {trace : List (Event E A)} {result : Option R} (hrun : Runs p trace result) :
    ∀ r ∈ result, post r trace := by
  intro r hr
  have haccepts := (history Fine).accepts_of_admits (fun _ _ => trivial) [] trace
  have hend := (wp_sound (history Fine) hrun history_safe_nil (hp [] hpre) haccepts).2 r hr
  rwa [history_after, List.nil_append] at hend

end History

end Monitor

end Proc
