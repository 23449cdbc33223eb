import WsBlast.Lib.Proc

/-!
# Runs put together

A run of a program is put together from runs of its parts: one program after
another (`Runs.bind`), a question and its answer (`Runs.ask`), the pieces of
a loop's body (`StepRuns.bind`, `StepRuns.leave`) and its turns
(`StepRuns.turn`). This is how a run with a given end is shown to exist.

A statement that *every* run of a program is so is proved with the rules for
monitors, which never exhibit a run. The other half, that a particular run
exists, is needed wherever a statement is refuted or a condition is shown to be
reachable: the run has to be built, event by event, and checked to be one of the
program.
-/

namespace Proc

variable {E : Type} {A : E → Type} {R T U X S : Type}

/-- Programs in a row can be grouped in either way. -/
theorem bind_assoc (p : Proc E A R) (f : R → Proc E A T) (g : T → Proc E A U) :
    bind (bind p f) g = bind p fun r => bind (f r) g := by
  induction p with
  | pure r => rfl
  | vis e k ih => exact congrArg (Proc.vis e) (funext fun a => ih a f)
  | iter body s k ihBody ihK => exact congrArg (Proc.iter body s) (funext fun t => ihK t f)

/-- One run after another. -/
theorem Runs.bind {p : Proc E A R} {f : R → Proc E A T} {trace rest : List (Event E A)} {r : R}
    {result : Option T} (hp : Runs p trace (some r)) (hf : Runs (f r) rest result) :
    Runs (p >>= f) (trace ++ rest) result := by
  show Runs (Proc.bind p f) (trace ++ rest) result
  generalize hend : some r = ending at hp
  induction hp with
  | stop p => cases hend
  | done r' =>
    obtain rfl := Option.some.inj hend
    exact hf
  | vis a h ih => exact .vis a (ih hf hend)
  | @iter S' T' R' body s k trace result' h ih =>
    refine .iter ?_
    have hunroll : Proc.bind (unroll body s k) f = unroll body s fun t => Proc.bind (k t) f := by
      unfold unroll
      rw [bind_assoc]
      congr 1
      funext x
      cases x with
      | inl s => rfl
      | inr t => rfl
    exact hunroll ▸ ih hf hend

/-- A question with an answer. -/
theorem Runs.ask (e : E) (a : A e) : Runs (Proc.ask e) [⟨e, a⟩] (some a) := .vis a (.done a)

/-- A loop whose first turn is the last. -/
theorem Runs.leave_loop {body : S → Proc E A (S ⊕ T)} {s : S} {t : T} {trace : List (Event E A)}
    (h : Runs (body s) trace (some (.inr t))) : Runs (loop body s) trace (some t) := by
  refine .iter ?_
  rw [← List.append_nil trace]
  exact Runs.bind h (.done t)

/-- A piece of a loop's body comes to an end. -/
def StepRuns (p : Step E A X S) (trace : List (Event E A)) (result : Except X S) : Prop :=
  Runs p.run trace (some result)

namespace StepRuns

variable {trace rest : List (Event E A)}

theorem pure (s : S) : StepRuns (Pure.pure s : Step E A X S) [] (.ok s) := .done _

theorem throw (x : X) : StepRuns (throw x : Step E A X S) [] (.error x) := .done _

/-- A program that cannot leave. -/
theorem lift {p : Proc E A S} {s : S} (h : Runs p trace (some s)) :
    StepRuns (liftM p : Step E A X S) trace (.ok s) := by
  have hrun := h.bind (f := fun s => (Pure.pure (Except.ok s) : Proc E A (Except X S))) (.done _)
  rw [List.append_nil] at hrun
  exact hrun

/-- One piece after another. -/
theorem bind {p : Step E A X S} {f : S → Step E A X T} {s : S} {result : Except X T}
    (hp : StepRuns p trace (.ok s)) (hf : StepRuns (f s) rest result) :
    StepRuns (p >>= f) (trace ++ rest) result :=
  Runs.bind (f := fun r => ExceptT.bindCont f r) hp hf

/-- A piece that leaves. -/
theorem leave {p : Step E A X S} (f : S → Step E A X T) {x : X}
    (hp : StepRuns p trace (.error x)) : StepRuns (p >>= f) trace (.error x) := by
  have hrun := Runs.bind (f := fun r => ExceptT.bindCont f r) hp (Runs.done (Except.error x))
  rw [List.append_nil] at hrun
  exact hrun

/-- A turn of a loop that goes on. -/
theorem turn {body : S → Step E A X (S ⊕ T)} {s s' : S} {result : Except X T}
    (hbody : StepRuns (body s) trace (.ok (.inl s')))
    (hrest : StepRuns (repeatUntil body s') rest result) :
    StepRuns (repeatUntil body s) (trace ++ rest) result := by
  refine .iter ?_
  show Runs (Proc.bind (Proc.bind (body s).run _) _) (trace ++ rest) _
  rw [bind_assoc]
  exact Runs.bind hbody hrest

/-- A turn that leaves the loop. -/
theorem leave_turn {body : S → Step E A X (S ⊕ T)} {s : S} {x : X}
    (hbody : StepRuns (body s) trace (.error x)) :
    StepRuns (repeatUntil body s) trace (.error x) := by
  refine .iter ?_
  show Runs (Proc.bind (Proc.bind (body s).run _) _) trace _
  rw [bind_assoc, ← List.append_nil trace]
  exact Runs.bind hbody (.done _)

end StepRuns
end Proc
