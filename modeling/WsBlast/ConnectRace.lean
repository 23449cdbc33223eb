import WsBlast.ConnectTarget
import WsBlast.Lib.Proc

/-!
# Connecting to the first address that accepts

`connectTcp` races the addresses of a target: it starts with one attempt, adds
the next whenever one fails or the newest has run for a while, and returns
with the first that succeeds. What it cannot decide is which comes next, an
attempt that ends or its timer (`Selected`): an attempt can only end when it
is pending, and the timer only fires while an address is left. With neither
the program panics, which is a result of its own (`none`); that it never waits
so is part of what the race keeps (`BetweenWaits`).

`RaceFine` says what each event of a race is after the events before it, and
`Raced` what its result is.

An address that does not answer would hold up a connection for as long as the
operating system waits. The race gives each attempt a quarter of a second alone
before it starts the next one, and lets the earlier ones go on. A failure
starts the next one at once. The first success wins, and the others are dropped
with it.
-/

namespace WsBlast

open Proc.Monitor (Triple filterMap_snoc)

/-! ## The race

The questions of a race, its state, and the loop. -/

/-- An address to connect to, and the source address to bind for it. -/
abbrev ConnectAddr : Type := SocketAddr × Option IpAddr

/-- What a wait for the pending attempts ends with. -/
inductive Selected (S E : Type) (pending : List ℕ) (armed : Bool) where
  | finished (attempt : ℕ) (isPending : attempt ∈ pending) (result : Except E S)
  /-- The newest attempt has run for a while. -/
  | expired (isArmed : armed = true)
  /-- There is nothing to wait for. -/
  | disabled (isDisabled : pending = [] ∧ armed = false)

/-- What a race asks its environment. -/
inductive RaceEff where
  /-- Starts an attempt. -/
  | start (attempt : ℕ) (addr : ConnectAddr)
  /-- Waits for a pending attempt or, when it is armed, the timer. -/
  | select (pending : List ℕ) (armed : Bool)

section Race

variable {S E : Type}

/-- What each question of a race is answered with. -/
def RaceEff.Answer (S E : Type) : RaceEff → Type
  | .start _ _ => Unit
  | .select pending armed => Selected S E pending armed

/-- A program of a race. -/
abbrev RaceProc (S E R : Type) : Type 1 := Proc RaceEff (RaceEff.Answer S E) R

/-- One event of a race's trace. -/
abbrev RaceEvent (S E : Type) : Type := Proc.Event RaceEff (RaceEff.Answer S E)

namespace AskRace

/-- Starts an attempt. -/
def start (attempt : ℕ) (addr : ConnectAddr) : RaceProc S E Unit :=
  Proc.ask (RaceEff.start attempt addr)

/-- Waits for an attempt that ends, or for the timer. -/
def select (pending : List ℕ) (armed : Bool) : RaceProc S E (Selected S E pending armed) :=
  Proc.ask (RaceEff.select pending armed)

end AskRace

/-- What a race keeps: the addresses it has not tried, the attempts in order,
and those that have not ended. -/
structure RaceState where
  queue : List ConnectAddr
  started : ℕ
  pending : List ℕ

/-- Starts the attempt at the next address. -/
def startNext (state : RaceState) (addr : ConnectAddr) (queue : List ConnectAddr) :
    RaceProc S E RaceState := do
  AskRace.start state.started addr
  pure { queue, started := state.started + 1, pending := state.pending ++ [state.started] }

/-- An attempt failed: the next one starts at once. The race is lost when there
is none and no other attempt is pending. -/
def attemptFailed (state : RaceState) (attempt : ℕ) (err : E) :
    RaceProc S E (RaceState ⊕ Option (Except E S)) :=
  let state := { state with pending := state.pending.erase attempt }
  match state.queue with
  | addr :: queue => do
    let state ← startNext state addr queue
    pure (.inl state)
  | [] => if state.pending = [] then pure (.inr (some (.error err))) else pure (.inl state)

/-- The newest attempt has run for a while: the next one starts alongside. -/
def timerExpired (state : RaceState) : RaceProc S E (RaceState ⊕ Option (Except E S)) :=
  match state.queue with
  | addr :: queue => do
    let state ← startNext state addr queue
    pure (.inl state)
  | [] => pure (.inl state)

/-- One wait of a race; the timer is armed while an address is left. -/
def raceRound (state : RaceState) : RaceProc S E (RaceState ⊕ Option (Except E S)) := do
  match ← AskRace.select state.pending (!state.queue.isEmpty) with
  | .finished _ _ (.ok stream) => pure (.inr (some (.ok stream)))
  | .finished attempt _ (.error err) => attemptFailed state attempt err
  | .expired _ => timerExpired state
  | .disabled _ => pure (.inr none)

/-- Connects to the first address that accepts, trying them in the given order.
Returns the last error when every address fails, and nothing when it
panics. -/
def connectTcp (notFound : E) (addrs : List ConnectAddr) : RaceProc S E (Option (Except E S)) :=
  match addrs with
  | [] => pure (some (.error notFound))
  | first :: queue => do
    let state ← startNext { queue := addrs, started := 0, pending := [] } first queue
    Proc.loop raceRound state

/-! ## What the trace shows

The attempts that were started and those that ended, each in the order of the
trace. -/

namespace RaceTrace

/-- The address an event starts an attempt at. -/
def startedOf : RaceEvent S E → Option ConnectAddr
  | ⟨.start _ addr, _⟩ => some addr
  | _ => none

/-- The attempt that ends with an event, and its result. -/
def finishedOf : RaceEvent S E → Option (ℕ × Except E S)
  | ⟨.select _ _, .finished attempt _ result⟩ => some (attempt, result)
  | _ => none

variable (trace : List (RaceEvent S E))

/-- The addresses that attempts were started at, in order. -/
def started : List ConnectAddr := trace.filterMap startedOf

/-- The attempts that ended, in order. -/
def finished : List (ℕ × Except E S) := trace.filterMap finishedOf

/-- Every attempt that ended failed. -/
def AllFailed : Prop := ∀ item ∈ finished trace, ∃ err, item.2 = .error err

end RaceTrace

open RaceTrace

/-- What an event of a race is, after the events before it: no attempt has
succeeded yet, an attempt is started at the next address, and a wait has an
attempt pending. -/
def RaceFine (addrs : List ConnectAddr) (before : List (RaceEvent S E)) (event : RaceEvent S E) :
    Prop :=
  AllFailed before
  ∧ match event.1 with
    | .start attempt addr => attempt = (started before).length ∧ addrs[attempt]? = some addr
    | .select pending _ => pending ≠ []
      ∧ ((finished before).map Prod.fst ++ pending).Perm (List.range (started before).length)

/-- What a race that is over has come to: the attempt that just succeeded, or
the error of the last one when every address was tried and failed. -/
def Raced (notFound : E) (addrs : List ConnectAddr) (result : Option (Except E S))
    (trace : List (RaceEvent S E)) : Prop :=
  match result with
  | none => False
  | some (.ok stream) => ∃ before attempt event, trace = before ++ [event]
    ∧ AllFailed before ∧ finishedOf event = some (attempt, .ok stream)
  | some (.error err) => AllFailed trace ∧ started trace = addrs
    ∧ ((finished trace).map Prod.fst).Perm (List.range addrs.length)
    ∧ ((addrs = [] ∧ err = notFound)
      ∨ ∃ attempt, (finished trace).getLast? = some (attempt, .error err))

/-! ## What a race keeps

The state of the race is what the trace says, and what is left of the addresses
is what was not tried. -/

theorem started_snoc (past : List (RaceEvent S E)) (event : RaceEvent S E) :
    started (past ++ [event]) = started past ++ (startedOf event).toList := by
  unfold started
  rw [filterMap_snoc]

theorem finished_snoc (past : List (RaceEvent S E)) (event : RaceEvent S E) :
    finished (past ++ [event]) = finished past ++ (finishedOf event).toList := by
  unfold finished
  rw [filterMap_snoc]

/-- What a race keeps agrees with what the trace shows. -/
structure Racing (addrs : List ConnectAddr) (state : RaceState) (past : List (RaceEvent S E)) :
    Prop where
  failed : AllFailed past
  bound : state.started ≤ addrs.length
  started : started past = addrs.take state.started
  queue : state.queue = addrs.drop state.started
  perm : ((finished past).map Prod.fst ++ state.pending).Perm (List.range state.started)

namespace Racing

variable {addrs : List ConnectAddr} {state : RaceState} {past : List (RaceEvent S E)}

theorem length_started (h : Racing addrs state past) :
    (RaceTrace.started past).length = state.started := by
  rw [h.started, List.length_take, min_eq_left h.bound]

/-- The next attempt is at the next address. -/
theorem next_addr (h : Racing addrs state past) {addr : ConnectAddr} {queue : List ConnectAddr}
    (hqueue : state.queue = addr :: queue) :
    addrs[state.started]? = some addr ∧ queue = addrs.drop (state.started + 1) := by
  have hdrop := h.queue
  rw [hqueue] at hdrop
  constructor
  · rw [← List.head?_drop, ← hdrop]
    rfl
  · rw [← List.drop_drop, ← hdrop]
    rfl

theorem starting (h : Racing addrs state past) {addr : ConnectAddr} {queue : List ConnectAddr}
    (hqueue : state.queue = addr :: queue) :
    Racing addrs ⟨queue, state.started + 1, state.pending ++ [state.started]⟩
      (past ++ [⟨.start state.started addr, ()⟩]) := by
  obtain ⟨haddr, hrest⟩ := h.next_addr hqueue
  have hfinished : finished (past ++ [⟨.start state.started addr, ()⟩]) = finished past := by
    rw [finished_snoc]
    exact List.append_nil _
  have hlt : state.started < addrs.length := (List.getElem?_eq_some_iff.mp haddr).1
  refine ⟨?_, hlt, ?_, hrest, ?_⟩
  · unfold AllFailed
    rw [hfinished]
    exact h.failed
  · rw [started_snoc, h.started]
    show _ ++ [addr] = addrs.take (state.started + 1)
    rw [List.take_add_one, haddr]
    rfl
  · rw [hfinished, List.range_succ, ← List.append_assoc]
    exact h.perm.append_right _

theorem failing (h : Racing addrs state past) {attempt : ℕ} {armed : Bool}
    (hpending : attempt ∈ state.pending) (err : E) :
    Racing addrs { state with pending := state.pending.erase attempt }
      (past ++ [⟨.select state.pending armed, .finished attempt hpending (.error err)⟩]) := by
  have hfinished : finished
      (past ++ [⟨.select state.pending armed, .finished attempt hpending (.error err)⟩])
        = finished past ++ [(attempt, .error err)] := finished_snoc _ _
  refine ⟨?_, h.bound, ?_, h.queue, ?_⟩
  · intro item hitem
    rw [hfinished] at hitem
    rcases List.mem_append.mp hitem with hbefore | hlast
    · exact h.failed item hbefore
    · rw [List.mem_singleton.mp hlast]
      exact ⟨err, rfl⟩
  · rw [started_snoc]
    exact (List.append_nil _).trans h.started
  · rw [hfinished, List.map_append, List.append_assoc]
    refine (List.Perm.append_left _ ?_).trans h.perm
    exact (List.perm_cons_erase hpending).symm

theorem waiting (h : Racing addrs state past) {armed : Bool} (isArmed : armed = true) :
    Racing addrs state (past ++ [⟨.select state.pending armed, .expired isArmed⟩]) := by
  have hfinished : finished
      (past ++ [(⟨.select state.pending armed, .expired isArmed⟩ : RaceEvent S E)])
        = finished past := by
    rw [finished_snoc]
    exact List.append_nil _
  refine ⟨?_, h.bound, ?_, h.queue, ?_⟩
  · unfold AllFailed
    rw [hfinished]
    exact h.failed
  · rw [started_snoc]
    exact (List.append_nil _).trans h.started
  · rw [hfinished]
    exact h.perm

end Racing

/-! ## The rounds

Each piece of the loop, from one wait to the next. -/

section Rounds

variable (addrs : List ConnectAddr) (notFound : E)

/-- A program of a race, read as a history in which every event is fine. -/
abbrev Races {R : Type} (pre : List (RaceEvent S E) → Prop) (p : RaceProc S E R)
    (post : R → List (RaceEvent S E) → Prop) : Prop :=
  Triple (Proc.Monitor.history (RaceFine addrs)) pre p post

/-- Between two waits: an attempt is pending. -/
def BetweenWaits (state : RaceState) (past : List (RaceEvent S E)) : Prop :=
  Racing addrs state past ∧ state.pending ≠ []

variable {addrs notFound}

theorem races_startNext {state : RaceState} {addr : ConnectAddr} {queue : List ConnectAddr}
    (hqueue : state.queue = addr :: queue) :
    Races (S := S) (E := E) addrs (Racing addrs state) (startNext state addr queue)
      (BetweenWaits addrs) := by
  have hstart : Races (S := S) (E := E) addrs (Racing addrs state)
      (AskRace.start state.started addr) fun _ => BetweenWaits addrs
        ⟨queue, state.started + 1, state.pending ++ [state.started]⟩ := by
    refine Triple.ask_history fun past _ h => ⟨⟨h.failed, ?_, ?_⟩, h.starting hqueue, by simp⟩
    · exact h.length_started.symm
    · exact (h.next_addr hqueue).1
  exact Triple.bind hstart fun _ => Triple.pure fun _ h => h

/-- The next attempt starts, and one is pending from then on. -/
theorem races_startNext_inl {state : RaceState} {addr : ConnectAddr} {queue : List ConnectAddr}
    (hqueue : state.queue = addr :: queue) :
    Races (S := S) (E := E) addrs (Racing addrs state)
      (startNext state addr queue >>= fun state => pure (.inl state))
      (Sum.elim (BetweenWaits addrs) (Raced notFound addrs)) :=
  Triple.bind (races_startNext hqueue) fun _ => Triple.pure fun _ h => h

theorem races_attemptFailed (state : RaceState) (attempt : ℕ) (err : E) :
    Races (S := S) addrs
      (fun past => Racing addrs { state with pending := state.pending.erase attempt } past
        ∧ (finished past).getLast? = some (attempt, .error err))
      (attemptFailed state attempt err)
      (Sum.elim (BetweenWaits addrs) (Raced notFound addrs)) := by
  unfold attemptFailed
  cases hqueue : state.queue with
  | cons addr queue =>
    have hnext := @races_startNext_inl S E addrs notFound
      ⟨addr :: queue, state.started, state.pending.erase attempt⟩ addr queue rfl
    exact hnext.weaken (fun past h => h.1) fun _ _ h => h
  | nil =>
    refine Triple.ite (fun hnone => Triple.pure fun past h => ?_)
      fun hsome => Triple.pure fun past h => ⟨h.1, hsome⟩
    · -- every address was tried, and none is pending
      have hstarted : state.started = addrs.length :=
        le_antisymm h.1.bound (List.drop_eq_nil_iff.mp h.1.queue.symm)
      refine ⟨h.1.failed, ?_, ?_, Or.inr ⟨attempt, h.2⟩⟩
      · have htake := h.1.started
        rwa [hstarted, List.take_length] at htake
      · have hperm := h.1.perm
        rwa [hnone, List.append_nil, hstarted] at hperm

theorem races_timerExpired (state : RaceState) :
    Races (S := S) addrs (BetweenWaits addrs state) (timerExpired state)
      (Sum.elim (BetweenWaits addrs) (Raced notFound addrs)) := by
  unfold timerExpired
  cases hqueue : state.queue with
  | cons addr queue =>
    exact Triple.weaken (races_startNext_inl hqueue) (fun past h => h.1) fun _ _ h => h
  | nil => exact Triple.pure fun past h => h

theorem races_raceRound (state : RaceState) :
    Races addrs (BetweenWaits addrs state) (raceRound state)
      (Sum.elim (BetweenWaits addrs) (Raced (S := S) notFound addrs)) := by
  have hselect : Races addrs (BetweenWaits addrs state)
      (AskRace.select state.pending (!state.queue.isEmpty))
      fun (selected : Selected S E _ _) past =>
        (∃ before, past = before ++ [⟨.select state.pending (!state.queue.isEmpty), selected⟩]
          ∧ BetweenWaits addrs state before) := by
    refine Triple.ask_history fun past selected h => ⟨⟨h.1.failed, h.2, ?_⟩, past, rfl, h⟩
    rw [h.1.length_started]
    exact h.1.perm
  refine Triple.bind hselect fun selected => ?_
  cases selected with
  | finished attempt isPending result =>
    cases result with
    | ok stream =>
      refine Triple.pure fun past hpast => ?_
      obtain ⟨before, rfl, h⟩ := hpast
      exact ⟨before, attempt, _, rfl, h.1.failed, rfl⟩
    | error err =>
      refine Triple.weaken (races_attemptFailed state attempt err) (fun past hpast => ?_)
        fun _ _ h => h
      obtain ⟨before, rfl, h⟩ := hpast
      refine ⟨h.1.failing isPending err, ?_⟩
      rw [finished_snoc]
      exact List.getLast?_concat
  | disabled isDisabled =>
    -- an attempt is pending between two waits, so a branch is enabled
    refine Triple.pure fun past hpast => ?_
    obtain ⟨before, -, h⟩ := hpast
    exact absurd isDisabled.1 h.2
  | expired isArmed =>
    refine Triple.weaken (races_timerExpired state) (fun past hpast => ?_) fun _ _ h => h
    obtain ⟨before, rfl, h⟩ := hpast
    exact ⟨h.1.waiting isArmed, h.2⟩

/-- **A race keeps its invariant**, and ends with what it has come to. -/
theorem races_connectTcp (notFound : E) (addrs : List ConnectAddr) :
    Races (S := S) addrs (fun past => past = []) (connectTcp notFound addrs)
      (Raced notFound addrs) := by
  cases addrs with
  | nil =>
    refine Triple.pure fun past hpast => ?_
    rw [hpast]
    exact ⟨fun _ h => absurd h List.not_mem_nil, rfl, List.Perm.refl _, Or.inl ⟨rfl, rfl⟩⟩
  | cons first queue =>
    have hstart := @races_startNext S E (first :: queue) ⟨first :: queue, 0, []⟩ first queue rfl
    refine Triple.bind (hstart.weaken (fun past hpast => ?_) fun _ _ h => h) fun state =>
      Triple.loop (BetweenWaits (first :: queue)) fun state => races_raceRound state
    rw [hpast]
    exact ⟨fun _ h => absurd h List.not_mem_nil, Nat.zero_le _, rfl, rfl, List.Perm.refl _⟩

end Rounds

/-! ## Every address gets its chance

From single events to the order of a whole race. -/

/-- Attempts are started at the addresses in order, each at most once. -/
theorem started_prefix {addrs : List ConnectAddr} {trace : List (RaceEvent S E)}
    (hfine : ∀ before event after, trace = before ++ event :: after →
      RaceFine addrs before event) : started trace <+: addrs := by
  induction trace using List.reverseRecOn with
  | nil => exact List.nil_prefix
  | append_singleton trace event ih =>
    obtain ⟨hfirst, -, hevent⟩ := Proc.Monitor.fine_of_snoc hfine
    have hbefore := ih hfirst
    rw [started_snoc]
    obtain ⟨eff, answer⟩ := event
    cases eff with
    | start attempt addr =>
      obtain ⟨rfl, haddr⟩ := hevent
      rw [List.prefix_iff_eq_take] at hbefore ⊢
      show started trace ++ [addr] = addrs.take (started trace ++ [addr]).length
      rw [List.length_append, List.length_singleton, List.take_add_one, haddr, ← hbefore]
      rfl
    | select pending armed =>
      have hnone : (startedOf (⟨.select pending armed, answer⟩ : RaceEvent S E)).toList = [] := rfl
      rw [hnone, List.append_nil]
      exact hbefore

/-- A race is over with its first success. -/
theorem ended_of_success {addrs : List ConnectAddr} {notFound : E} {trace : List (RaceEvent S E)}
    {result : Option (Option (Except E S))}
    (hfine : ∀ before event after, trace = before ++ event :: after → RaceFine addrs before event)
    (hraced : ∀ r ∈ result, Raced notFound addrs r trace)
    {before after : List (RaceEvent S E)} {event : RaceEvent S E} {attempt : ℕ} {stream : S}
    (htrace : trace = before ++ event :: after)
    (hsuccess : finishedOf event = some (attempt, .ok stream)) :
    after = [] ∧ ∀ r ∈ result, r = some (.ok stream) := by
  -- nothing follows a success, since every later event asks that there was none
  have hnotAll : ∀ {past : List (RaceEvent S E)}, (attempt, Except.ok stream) ∈ finished past →
      ¬ AllFailed past := by
    intro past hmem hall
    obtain ⟨err, herr⟩ := hall _ hmem
    cases herr
  have hmem : (attempt, Except.ok stream) ∈ finished (before ++ [event]) := by
    rw [finished_snoc, hsuccess]
    exact List.mem_append_right _ (List.mem_singleton.mpr rfl)
  -- every event wants the attempts before it to have failed
  have hlast : after = [] := by
    cases after with
    | nil => rfl
    | cons next after =>
      rw [List.append_cons] at htrace
      exact absurd (hfine _ next after htrace).1 (hnotAll hmem)
  refine ⟨hlast, fun r hr => ?_⟩
  rw [hlast] at htrace
  have hend := hraced r hr
  cases r with
  | none => exact hend.elim
  | some r =>
    cases r with
    | error err =>
      rw [htrace] at hend
      exact absurd hend.1 (hnotAll hmem)
    | ok other =>
      obtain ⟨before', attempt', event', heq, -, hother⟩ := hend
      obtain ⟨-, hevent⟩ := List.append_inj' (heq.symm.trans htrace) rfl
      obtain rfl : event' = event := List.head_eq_of_cons_eq hevent
      rw [hsuccess] at hother
      simp only [Option.some.injEq, Prod.mk.injEq, Except.ok.injEq] at hother
      rw [hother.2]

end Race

/-- Every connection to a prepared target tries all its usable addresses. -/
structure TriesAll (addrs : List SocketAddr) (sourceIps : List IpAddr) (target : ConnectTarget) :
    Prop where
  perm : target.addrs.Perm (addrs.filter (SourceIps.new sourceIps).serves)
  /-- An address of the target is preferred, and tried first. -/
  sound : ∀ (ι : Type) [DecidableEq ι] (actions : List (ConnectAction ι)) (world : ConnectWorld ι),
    Machine.run (ConnectWorld.step target) {} actions = some world → world.Sound target

/-- A race gives the addresses their chance one after the other. -/
structure RacesInOrder {S E : Type} (notFound : E) (addrs : List ConnectAddr)
    (trace : List (RaceEvent S E)) (result : Option (Option (Except E S))) : Prop where
  /-- A pending attempt is always waited for. -/
  fine : ∀ before event after, trace = before ++ event :: after → RaceFine addrs before event
  started : RaceTrace.started trace <+: addrs
  /-- The first attempt that accepts ends the race. -/
  won : ∀ (before : List (RaceEvent S E)) event after attempt stream,
    trace = before ++ event :: after → RaceTrace.finishedOf event = some (attempt, .ok stream) →
    after = [] ∧ ∀ r ∈ result, r = some (.ok stream)
  raced : ∀ r ∈ result, Raced notFound addrs r trace

/-- **Every address gets its chance.** The resolved addresses are interleaved;
every connection to a prepared target tries all that are usable, the preferred
one first; and a race starts them in order, ends with the first that accepts
or with the last error of all, and always waits for a pending attempt. -/
theorem every_address_gets_its_chance :
    (∀ addrs, Interleaved addrs (interleaveFamilies addrs))
      ∧ (∀ (addrs : List SocketAddr) (sourceIps : List IpAddr) (target : ConnectTarget),
        ConnectTarget.prepare (.ok addrs) sourceIps = .ok target → TriesAll addrs sourceIps target)
      ∧ ∀ (S E : Type) (notFound : E) (addrs : List ConnectAddr) (trace : List (RaceEvent S E))
        (result : Option (Option (Except E S))),
        Proc.Runs (connectTcp notFound addrs) trace result →
        RacesInOrder notFound addrs trace result := by
  refine ⟨interleaved_interleaveFamilies, fun addrs sourceIps target hprepare => ⟨?_, ?_⟩, ?_⟩
  · exact ConnectTarget.addrs_prepare hprepare
  · intro ι _ actions world hrun
    exact ConnectWorld.sound_run hrun
  · intro S E notFound addrs trace result hrun
    have htriple := races_connectTcp (S := S) notFound addrs
    have hfine : ∀ before event after, trace = before ++ event :: after →
        RaceFine addrs before event := fun before event after heq =>
      Proc.Monitor.history_sound htriple rfl hrun heq
    have hraced : ∀ r ∈ result, Raced notFound addrs r trace :=
      Proc.Monitor.history_result htriple rfl hrun
    exact
      { fine := hfine
        started := started_prefix hfine
        won := fun before event after attempt stream htrace hsuccess =>
          ended_of_success hfine hraced htrace hsuccess
        raced := hraced }

/-- The first address refuses, the others accept. -/
def firstRefuses (_ : ℕ) : (question : RaceEff) → question.Answer ℕ String
  | .start _ _ => ()
  | .select (attempt :: _) _ => .finished attempt List.mem_cons_self
    (if attempt = 0 then .error "refused" else .ok attempt)
  | .select [] true => .expired rfl
  | .select [] false => .disabled ⟨rfl, rfl⟩

/-- Two addresses of a host that listens on one of them. -/
def twoAddrs : List ConnectAddr := [(.v6 1 9001 0 0, none), (.v4 0x7f000001 9001, none)]

/-- The second attempt follows the failure of the first and wins. -/
theorem every_address_gets_its_chance_second :
    let race := Proc.run firstRefuses 9 0 (connectTcp "no address to connect to" twoAddrs)
    race.2 = some (some (.ok 1)) ∧ RaceTrace.started race.1 <+: twoAddrs :=
  ⟨rfl, (every_address_gets_its_chance.2.2 ℕ String "no address to connect to" twoAddrs _ _
    (Proc.runs_run firstRefuses 9 0 _)).started⟩

end WsBlast
