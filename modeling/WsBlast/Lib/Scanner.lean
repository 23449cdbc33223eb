import Mathlib.Data.List.Basic
import Mathlib.Order.Nat

/-!
# Scanning a stream that arrives in pieces

A scanner looks at the bytes that have arrived and not been used up. It waits
for more, takes some from the front and goes on in a new state, or rejects
them. `scan` repeats this until the scanner waits or rejects.

A scanner is `Steady` when more bytes do not change its mind: what it does
with some bytes it does with these bytes and anything behind them. Then the
pieces in which a stream arrives do not matter (`scan_append`). `Extends` is
the same between two scanners, the second of which knows more than the first
and may go on where the first one waits (`scan_resume`). A scanner is `Exact`
when it does not look behind the bytes it takes; then what a scan used up, it
would have used up alone (`scan_used`).

Every stream codec is written as such a scanner, whether the code says so or
not: bytes are put into a buffer, the front of the buffer is inspected, and
either a unit is taken off or the codec waits.
-/

namespace Scanner

variable {S β ε : Type}

/-- What a scanner does next. -/
inductive Next (S ε : Type) where
  | wait
  /-- Takes `n` bytes from the front. -/
  | take (s : S) (n : ℕ)
  | reject (s : S) (error : ε)
  deriving DecidableEq, Repr

/-- The state, the bytes that are not used up, and the error, if it rejected
them. -/
structure Scanned (S β ε : Type) where
  state : S
  rest : List β
  error : Option ε
  deriving DecidableEq, Repr

/-! ## Scanning

The scan is given as many steps as there are bytes and one more. -/

/-- At most `fuel` steps. -/
def scanFor (next : S → List β → Next S ε) : ℕ → S → List β → Scanned S β ε
  | 0, s, input => ⟨s, input, none⟩
  | fuel + 1, s, input => match next s input with
    | .wait => ⟨s, input, none⟩
    | .reject s error => ⟨s, input, some error⟩
    | .take s n => scanFor next fuel s (input.drop n)

/-- As many steps as there are. A step takes a byte at least. -/
def scan (next : S → List β → Next S ε) (s : S) (input : List β) : Scanned S β ε :=
  scanFor next (input.length + 1) s input

/-! ## What is asked of a scanner

Three conditions on single steps, from which the results on whole scans follow.
-/

/-- What a step takes is there, and it takes something. -/
structure Progresses (next : S → List β → Next S ε) : Prop where
  /-- The bytes a step takes are among those that have arrived. -/
  bound : ∀ {s s' : S} {input : List β} {n : ℕ}, next s input = .take s' n →
    0 < n ∧ n ≤ input.length

/-- What a scanner does, another one does with more bytes behind. -/
structure Extends (next next' : S → List β → Next S ε) : Prop where
  /-- Once a scanner does something, so does the other one, whatever arrives. -/
  same : ∀ {s : S} {input : List β}, next s input ≠ .wait → ∀ more,
    next' s (input ++ more) = next s input

/-- More bytes do not change a scanner's mind. -/
def Steady (next : S → List β → Next S ε) : Prop := Extends next next

/-- What a step takes, it takes when nothing is behind it. -/
structure Exact (next : S → List β → Next S ε) : Prop where
  /-- The decision to take these bytes did not depend on the bytes behind them. -/
  alone : ∀ {s s' : S} {input : List β} {n : ℕ}, next s input = .take s' n →
    next s (input.take n) = .take s' n

/-- The state behind a step from `s`. -/
def Next.target (s : S) : Next S ε → S
  | .wait => s
  | .take s' _ => s'
  | .reject s' _ => s'

/-- A step seen through a map of states. -/
def Next.map {T : Type} (f : S → T) : Next S ε → Next T ε
  | .wait => .wait
  | .take s n => .take (f s) n
  | .reject s error => .reject (f s) error

/-- The end of a scan seen through a map of states. -/
def Scanned.map {T : Type} (f : S → T) (end_ : Scanned S β ε) : Scanned T β ε :=
  ⟨f end_.state, end_.rest, end_.error⟩

section Scan

variable {next next' : S → List β → Next S ε}

/-- More fuel than bytes makes no difference. -/
theorem scanFor_eq (hnext : Progresses next) {fuel fuel' : ℕ} {input : List β} (s : S)
    (h : input.length < fuel) (h' : input.length < fuel') :
    scanFor next fuel s input = scanFor next fuel' s input := by
  induction fuel generalizing s input fuel' with
  | zero => omega
  | succ fuel ih =>
    obtain ⟨fuel', rfl⟩ := Nat.exists_eq_add_one_of_ne_zero (Nat.ne_zero_of_lt h')
    unfold scanFor
    cases hstep : next s input with
    | wait => rfl
    | reject s' error => rfl
    | take s' n =>
      obtain ⟨hpos, hle⟩ := hnext.bound hstep
      refine ih s' ?_ ?_ <;> rw [List.length_drop] <;> omega

section Steps

variable {s s' : S} {input : List β} {n : ℕ} {error : ε}

theorem scan_wait (h : next s input = .wait) : scan next s input = ⟨s, input, none⟩ := by
  unfold scan scanFor
  rw [h]

theorem scan_reject (h : next s input = .reject s' error) :
    scan next s input = ⟨s', input, some error⟩ := by
  unfold scan scanFor
  rw [h]

theorem scan_take (hnext : Progresses next) (h : next s input = .take s' n) :
    scan next s input = scan next s' (input.drop n) := by
  obtain ⟨hpos, hle⟩ := hnext.bound h
  have hdrop : (input.drop n).length < input.length := by
    rw [List.length_drop]
    omega
  unfold scan
  rw [scanFor, h]
  exact scanFor_eq hnext s' hdrop (Nat.lt_succ_self _)

end Steps

/-- **A scanner that knows more goes on where another one waits.** -/
theorem scan_resume (hnext : Progresses next) (hnext' : Progresses next') (hext : Extends next next')
    {s t : S} {input rest : List β} (h : scan next s input = ⟨t, rest, none⟩) (more : List β) :
    scan next' s (input ++ more) = scan next' t (rest ++ more) := by
  induction hlength : input.length using Nat.strong_induction_on generalizing s input with
  | _ length ih =>
    cases hstep : next s input with
    | wait =>
      rw [scan_wait hstep] at h
      cases h
      rfl
    | reject s' error =>
      rw [scan_reject hstep] at h
      cases h
    | take s' n =>
      obtain ⟨hpos, hle⟩ := hnext.bound hstep
      have hstep' : next' s (input ++ more) = .take s' n := by
        rw [hext.same (by rw [hstep]; nofun) more, hstep]
      rw [scan_take hnext hstep] at h
      rw [scan_take hnext' hstep', List.drop_append_of_le_length hle]
      refine ih (input.drop n).length ?_ h rfl
      rw [List.length_drop]
      omega

/-- **What a scanner rejects, one that knows more rejects too**, with anything
behind it. -/
theorem scan_reject_resume (hnext : Progresses next) (hnext' : Progresses next')
    (hext : Extends next next') {s t : S} {input rest : List β} {error : ε}
    (h : scan next s input = ⟨t, rest, some error⟩) (more : List β) :
    scan next' s (input ++ more) = ⟨t, rest ++ more, some error⟩ := by
  induction hlength : input.length using Nat.strong_induction_on generalizing s input with
  | _ length ih =>
    cases hstep : next s input with
    | wait =>
      rw [scan_wait hstep] at h
      cases h
    | reject s' e =>
      have hstep' : next' s (input ++ more) = .reject s' e := by
        rw [hext.same (by rw [hstep]; nofun) more, hstep]
      rw [scan_reject hstep] at h
      cases h
      exact scan_reject hstep'
    | take s' n =>
      obtain ⟨hpos, hle⟩ := hnext.bound hstep
      have hstep' : next' s (input ++ more) = .take s' n := by
        rw [hext.same (by rw [hstep]; nofun) more, hstep]
      rw [scan_take hnext hstep] at h
      rw [scan_take hnext' hstep', List.drop_append_of_le_length hle]
      refine ih (input.drop n).length ?_ h rfl
      rw [List.length_drop]
      omega

/-- **The pieces in which a stream arrives do not matter.** -/
theorem scan_append (hnext : Progresses next) (hsteady : Steady next) {s t : S}
    {input rest : List β} (h : scan next s input = ⟨t, rest, none⟩) (more : List β) :
    scan next s (input ++ more) = scan next t (rest ++ more) :=
  scan_resume hnext hnext hsteady h more

/-- **What a scan used up, it uses up alone.** -/
theorem scan_used (hnext : Progresses next) (hsteady : Steady next) (hexact : Exact next) {s t : S}
    {input rest : List β} (h : scan next s input = ⟨t, rest, none⟩) :
    ∃ used, input = used ++ rest ∧ scan next s used = ⟨t, [], none⟩ := by
  induction hlength : input.length using Nat.strong_induction_on generalizing s input with
  | _ length ih =>
    cases hstep : next s input with
    | wait =>
      rw [scan_wait hstep] at h
      cases h
      refine ⟨[], rfl, scan_wait ?_⟩
      by_contra hnil
      exact hnil ((hsteady.same hnil rest).symm.trans hstep)
    | reject s' error =>
      rw [scan_reject hstep] at h
      cases h
    | take s' n =>
      obtain ⟨hpos, hle⟩ := hnext.bound hstep
      have hdrop : (input.drop n).length < length := by
        rw [List.length_drop]
        omega
      rw [scan_take hnext hstep] at h
      obtain ⟨used, hused, hscan⟩ := ih _ hdrop h rfl
      refine ⟨input.take n ++ used, ?_, ?_⟩
      · rw [List.append_assoc, ← hused, List.take_append_drop]
      · have halone : next s (input.take n ++ used) = .take s' n := by
          have hwait : next s (input.take n) ≠ .wait := by rw [hexact.alone hstep]; nofun
          rw [hsteady.same hwait used, hexact.alone hstep]
        rw [scan_take hnext halone, List.drop_left' (List.length_take_of_le hle), hscan]

/-- A scan seen through a map of states. -/
theorem scan_map {T : Type} {nextT : T → List β → Next T ε} {f : S → T}
    (h : ∀ s input, nextT (f s) input = (next s input).map f) (s : S) (input : List β) :
    scan nextT (f s) input = (scan next s input).map f := by
  unfold scan
  generalize input.length + 1 = fuel
  induction fuel generalizing s input with
  | zero => rfl
  | succ fuel ih =>
    rw [scanFor, scanFor, h]
    cases next s input with
    | wait => rfl
    | reject s' error => rfl
    | take s' n => exact ih s' (input.drop n)

/-- **What every step keeps, a scan keeps.** -/
theorem scan_inv (P : S → Prop) (hkeep : ∀ {s : S}, P s → ∀ input, P ((next s input).target s))
    {s : S} (hs : P s) (input : List β) : P (scan next s input).state := by
  unfold scan
  generalize input.length + 1 = fuel
  induction fuel generalizing s input with
  | zero => exact hs
  | succ fuel ih =>
    have hstep := hkeep hs input
    rw [scanFor]
    cases hnext : next s input with
    | wait => exact hs
    | reject s' error =>
      rw [hnext] at hstep
      exact hstep
    | take s' n =>
      rw [hnext] at hstep
      exact ih hstep (input.drop n)

/-- Two scanners that agree in the states a scan goes through. -/
theorem scan_congr (P : S → Prop) (hsame : ∀ {s : S}, P s → ∀ input, next' s input = next s input)
    (hkeep : ∀ {s : S}, P s → ∀ input, P ((next s input).target s)) {s : S} (hs : P s)
    (input : List β) : scan next' s input = scan next s input := by
  unfold scan
  generalize input.length + 1 = fuel
  induction fuel generalizing s input with
  | zero => rfl
  | succ fuel ih =>
    have hstep := hkeep hs input
    rw [scanFor, scanFor, hsame hs]
    cases hnext : next s input with
    | wait => rfl
    | reject s' error => rfl
    | take s' n =>
      rw [hnext] at hstep
      exact ih hstep (input.drop n)

end Scan

end Scanner
