import WsBlast.Lib.Proc

/-!
# Checking a trace event by event

A `Checker` keeps what a trace has shown so far and says of every event
whether it is `Fine` at that point.

* `Checker.Holds` and `Checker.Keeps` are the triples of programs all of whose
  events are fine, `Holds.ask` their rule for one question; the other rules
  are those of `Monitor.Triple` and `Monitor.StepTriple`.
* `Checker.sound` carries them over to every run: each event is fine after the
  events before it.
* `Checker.invariant` says of the states of such a run what every fine event
  keeps.

The difference to a `Monitor` is what is concluded. A monitor has safe states; a
checker has fine events, and it remembers that every event so far was one, so
that the conclusion is about each event of the trace in its place.
-/

namespace Proc

/-- Something that checks a trace: a state that every event changes, the
answers it takes for possible, and the events that are fine in a state. -/
structure Checker (E : Type) (A : E → Type) (M : Type) where
  /-- What an event makes of the state. -/
  change : M → Event E A → M
  /-- The answers that are taken for possible. -/
  Admits : M → Event E A → Prop
  /-- Whether an event is as it has to be in this state. -/
  Fine : M → Event E A → Prop

namespace Checker

variable {E : Type} {A : E → Type} {M : Type} (c : Checker E A M)

/-- The state after a trace. -/
def after (s : M) (trace : List (Event E A)) : M := trace.foldl c.change s

/-- Every answer of the trace is possible where it comes. -/
def Accepts : M → List (Event E A) → Prop
  | _, [] => True
  | s, event :: rest => c.Admits s event ∧ Accepts (c.change s event) rest

/-- Whether the answers of a trace are possible can be decided when it can be
decided for each. -/
instance decidableAccepts [∀ s event, Decidable (c.Admits s event)] :
    ∀ (s : M) (trace : List (Event E A)), Decidable (c.Accepts s trace)
  | _, [] => isTrue trivial
  | s, event :: rest =>
    let _ := decidableAccepts (c.change s event) rest
    inferInstanceAs (Decidable (c.Admits s event ∧ c.Accepts (c.change s event) rest))

/-- Every event of the trace is fine after the events before it. -/
def AllFine (s : M) (trace : List (Event E A)) : Prop :=
  ∀ before event rest, trace = before ++ event :: rest → c.Fine (c.after s before) event

/-- The checker as a monitor, which also keeps whether every event was
fine. -/
def monitor : Monitor E A (M × Prop) where
  step := fun s event => (c.change s.1 event, s.2 ∧ c.Fine s.1 event)
  Admits := fun s event => c.Admits s.1 event
  Safe := fun s => s.2

section Traces

variable {c} {s : M} {trace : List (Event E A)}

/-! ## Traces

Facts about fine traces alone, without a program: they can be cut, taken apart
event by event, and carry any invariant that a fine event keeps. -/

theorem allFine_nil : c.AllFine s [] := fun _ _ _ h => absurd h.symm (by simp)

theorem allFine_cons {event : Event E A} :
    c.AllFine s (event :: trace) ↔ c.Fine s event ∧ c.AllFine (c.change s event) trace := by
  constructor
  · intro h
    exact ⟨h [] event trace rfl, fun before event' rest heq =>
      h (event :: before) event' rest (congrArg (event :: ·) heq)⟩
  · rintro ⟨hevent, htrace⟩ before event' rest heq
    cases before with
    | nil =>
      obtain ⟨rfl, -⟩ := List.cons.inj heq
      exact hevent
    | cons first before =>
      obtain ⟨rfl, hrest⟩ := List.cons.inj heq
      exact htrace before event' rest hrest

theorem monitor_accepts (ok : Prop) (h : c.Accepts s trace) :
    c.monitor.Accepts (s, ok) trace := by
  induction trace generalizing s ok with
  | nil => trivial
  | cons event rest ih => exact ⟨h.1, ih _ h.2⟩

theorem monitor_after (ok : Prop) : (c.monitor.after (s, ok) trace).1 = c.after s trace := by
  induction trace generalizing s ok with
  | nil => rfl
  | cons event rest ih => exact ih _

theorem allFine_of_monitor {ok : Prop} (h : (c.monitor.after (s, ok) trace).2) :
    ok ∧ c.AllFine s trace := by
  induction trace generalizing s ok with
  | nil => exact ⟨h, allFine_nil⟩
  | cons event rest ih =>
    obtain ⟨⟨hok, hevent⟩, hrest⟩ := ih h
    exact ⟨hok, allFine_cons.mpr ⟨hevent, hrest⟩⟩

/-- **What every fine event keeps**, every trace of fine events keeps. -/
theorem invariant {inv : M → Prop} (hfine : c.AllFine s trace) (hinit : inv s)
    (hstep : ∀ s event, inv s → c.Fine s event → inv (c.change s event)) :
    inv (c.after s trace) := by
  induction trace generalizing s with
  | nil => exact hinit
  | cons event rest ih =>
    obtain ⟨hevent, hrest⟩ := allFine_cons.mp hfine
    exact ih hrest (hstep s event hinit hevent)

/-- A trace of fine events is one up to any point. -/
theorem AllFine.cut {before rest : List (Event E A)} (h : c.AllFine s (before ++ rest)) :
    c.AllFine s before := by
  intro earlier event between heq
  refine h earlier event (between ++ rest) ?_
  rw [heq, List.append_assoc, List.cons_append]

theorem after_append (s : M) (before rest : List (Event E A)) :
    c.after s (before ++ rest) = c.after (c.after s before) rest := List.foldl_append

/-- What follows in a trace of fine events is one. -/
theorem AllFine.rest {before rest : List (Event E A)} (h : c.AllFine s (before ++ rest)) :
    c.AllFine (c.after s before) rest := by
  intro between event later heq
  rw [← after_append]
  refine h (before ++ between) event later ?_
  rw [heq, List.append_assoc]

end Traces

/-! ## Programs

The rules are those of monitors with the remembered fact carried along. -/

/-- From a state of `pre`, every event of the program is fine, and it ends in
a state of `post`. -/
def Holds {R : Type} (pre : M → Prop) (p : Proc E A R) (post : R → M → Prop) : Prop :=
  c.monitor.Triple (fun s => s.2 ∧ pre s.1) p fun r s => s.2 ∧ post r s.1

/-- The same for a piece of a loop, which may leave in a state of `leave`. -/
def Keeps {X S : Type} (pre : M → Prop) (p : Step E A X S) (post : S → M → Prop)
    (leave : X → M → Prop) : Prop :=
  c.monitor.StepTriple (fun s => s.2 ∧ pre s.1) p (fun x s => s.2 ∧ post x s.1)
    fun x s => s.2 ∧ leave x s.1

variable {c} {R T X S S' : Type} {pre : M → Prop}

namespace Holds

theorem ask {e : E} {post : A e → M → Prop}
    (h : ∀ s a, pre s → c.Admits s ⟨e, a⟩ → c.Fine s ⟨e, a⟩ ∧ post a (c.change s ⟨e, a⟩)) :
    c.Holds pre (Proc.ask e) post :=
  Monitor.Triple.ask fun s a hs hadm =>
    have hevent := h s.1 a hs.2 hadm
    ⟨⟨hs.1, hevent.1⟩, ⟨hs.1, hevent.1⟩, hevent.2⟩

theorem pure {r : R} {post : R → M → Prop} (h : ∀ s, pre s → post r s) :
    c.Holds pre (Pure.pure r) post :=
  Monitor.Triple.pure fun s hs => ⟨hs.1, h s.1 hs.2⟩

/-- Where the program never gets to. -/
theorem absurd {p : Proc E A R} {post : R → M → Prop} (h : ∀ s, ¬pre s) : c.Holds pre p post :=
  fun s hs => False.elim (h s.1 hs.2)

/-- One state at a time. -/
theorem of_forall {p : Proc E A R} {post : R → M → Prop}
    (h : ∀ s, pre s → c.Holds (fun s' => s' = s) p post) : c.Holds pre p post :=
  fun s hs => h s.1 hs.2 s ⟨hs.1, rfl⟩

theorem bind {p : Proc E A R} {f : R → Proc E A T} {mid : R → M → Prop} {post : T → M → Prop}
    (hp : c.Holds pre p mid) (hf : ∀ r, c.Holds (mid r) (f r) post) :
    c.Holds pre (p >>= f) post :=
  Monitor.Triple.bind hp hf

theorem weaken {p : Proc E A R} {pre' : M → Prop} {post post' : R → M → Prop}
    (hp : c.Holds pre' p post') (hpre : ∀ s, pre s → pre' s)
    (hpost : ∀ r s, post' r s → post r s) : c.Holds pre p post :=
  Monitor.Triple.weaken hp (fun s hs => ⟨hs.1, hpre s.1 hs.2⟩)
    fun r s hs => ⟨hs.1, hpost r s.1 hs.2⟩

theorem ite {q : Prop} [Decidable q] {p p' : Proc E A R} {post : R → M → Prop}
    (hp : q → c.Holds pre p post) (hp' : ¬q → c.Holds pre p' post) :
    c.Holds pre (if q then p else p') post :=
  Monitor.Triple.ite hp hp'

theorem loop (inv : S → M → Prop) {body : S → Proc E A (S ⊕ T)} {post : T → M → Prop} {x : S}
    (hbody : ∀ x, c.Holds (inv x) (body x) (Sum.elim inv post)) :
    c.Holds (inv x) (Proc.loop body x) post := by
  refine Monitor.Triple.loop (fun x (s : M × Prop) => s.2 ∧ inv x s.1) fun x s hs => ?_
  refine c.monitor.wp_mono ?_ (hbody x s hs)
  rintro (x | t) s hs
  · exact hs
  · exact hs

theorem forever (inv : S → M → Prop) {body : S → Step E A X S} {leave : X → M → Prop} {x : S}
    (hbody : ∀ x, c.Keeps (inv x) (body x) inv leave) :
    c.Holds (inv x) (Proc.forever body x) leave :=
  Monitor.Triple.forever (fun x (s : M × Prop) => s.2 ∧ inv x s.1) hbody

end Holds

namespace Keeps

variable {post : S → M → Prop} {leave : X → M → Prop}

theorem pure {x : S} (h : ∀ s, pre s → post x s) : c.Keeps pre (Pure.pure x) post leave :=
  Monitor.StepTriple.pure fun s hs => ⟨hs.1, h s.1 hs.2⟩

/-- Where the program never gets to. -/
theorem absurd {p : Step E A X S} (h : ∀ s, ¬pre s) : c.Keeps pre p post leave :=
  fun s hs => False.elim (h s.1 hs.2)

theorem throw {x : X} (h : ∀ s, pre s → leave x s) :
    c.Keeps pre (throw x : Step E A X S) post leave :=
  Monitor.StepTriple.throw fun s hs => ⟨hs.1, h s.1 hs.2⟩

theorem lift {p : Proc E A S} (hp : c.Holds pre p post) :
    c.Keeps pre (liftM p : Step E A X S) post leave :=
  Monitor.StepTriple.lift hp

theorem bind {p : Step E A X S'} {f : S' → Step E A X S} {mid : S' → M → Prop}
    (hp : c.Keeps pre p mid leave) (hf : ∀ x, c.Keeps (mid x) (f x) post leave) :
    c.Keeps pre (p >>= f) post leave :=
  Monitor.StepTriple.bind hp hf

theorem weaken {p : Step E A X S} {pre' : M → Prop} {post' : S → M → Prop}
    (hp : c.Keeps pre' p post' leave) (hpre : ∀ s, pre s → pre' s)
    (hpost : ∀ x s, post' x s → post x s) : c.Keeps pre p post leave :=
  Monitor.StepTriple.weaken hp (fun s hs => ⟨hs.1, hpre s.1 hs.2⟩)
    fun x s hs => ⟨hs.1, hpost x s.1 hs.2⟩

theorem ite {q : Prop} [Decidable q] {p p' : Step E A X S}
    (hp : q → c.Keeps pre p post leave) (hp' : ¬q → c.Keeps pre p' post leave) :
    c.Keeps pre (if q then p else p') post leave :=
  Monitor.StepTriple.ite hp hp'

end Keeps

/-- **Every event of a run is fine after the events before it**, and a run
that ends does so in a state of the postcondition. -/
theorem sound {p : Proc E A R} {post : R → M → Prop} (hp : c.Holds pre p post) {s : M}
    (hpre : pre s) {trace : List (Event E A)} {result : Option R} (hrun : Runs p trace result)
    (haccepts : c.Accepts s trace) :
    c.AllFine s trace ∧ ∀ r ∈ result, post r (c.after s trace) := by
  have hmonitor := Monitor.wp_sound c.monitor hrun (s := (s, True)) trivial
    (hp (s, True) ⟨trivial, hpre⟩) (monitor_accepts True haccepts)
  refine ⟨(allFine_of_monitor hmonitor.1).2, fun r hr => ?_⟩
  have hpost := (hmonitor.2 r hr).2
  rwa [monitor_after] at hpost

end Checker

end Proc
