import WsBlast.ArrivalLoop
import WsBlast.Plan

/-!
# The numbers of the connections

A runner numbers the connections it opens, and `{{worker_id}}` is replaced by
that number. Whatever kind of run it is, the numbers of one machine count up
from 0 without a gap (`Opens.perm_range`).

The machines of a distributed run each have a runner of their own, and `plan`
tells no agent how many connections the others have. So two agents that open
a connection both have a connection 0. The numbers are those of one machine
only when a single agent opens any (`workerIds_distinct_iff`).

A run that keeps its connections open starts them one after the other and
counts. A staged run opens a connection by pushing it on a list and closes the
one it opened last, and a connection gets its number when it is opened: the
length of the list at that time is not its number, the count of all it ever
opened is. A run of arrivals counts its sessions.
-/

namespace WsBlast

/-! ## The connections of one machine -/

/-- The connections of a run that keeps its connections open: one after the
other, until the run is cancelled. -/
def startWorkers (connections : ℕ) (cancelled : ℕ → Bool) : List ℕ :=
  (List.range connections).takeWhile fun workerId => !cancelled workerId

/-- The connections of a staged run. -/
structure StageSlots where
  opened : List ℕ := []
  closed : List ℕ := []
  nextId : ℕ := 0

namespace StageSlots

/-- Opens connections until as many as `wanted` are open. -/
def openTo (wanted : ℕ) (slots : StageSlots) : StageSlots :=
  if slots.opened.length < wanted then
    openTo wanted
      { slots with opened := slots.opened ++ [slots.nextId], nextId := slots.nextId + 1 }
  else slots
termination_by wanted - slots.opened.length
decreasing_by simp; omega

/-- Closes the most recently opened connections until no more than `wanted`
are open. -/
def closeTo (wanted : ℕ) (slots : StageSlots) : StageSlots :=
  if wanted < slots.opened.length then
    closeTo wanted
      { slots with
        opened := slots.opened.dropLast
        closed := slots.closed ++ slots.opened.getLast?.toList }
  else slots
termination_by slots.opened.length
decreasing_by simp; omega

/-- One tick of a staged run. -/
def tick (slots : StageSlots) (wanted : ℕ) : StageSlots := closeTo wanted (openTo wanted slots)

/-- Every connection that was opened. -/
def workers (slots : StageSlots) : List ℕ := slots.closed ++ slots.opened

/-- The numbers so far count up from 0. -/
def Numbered (slots : StageSlots) : Prop := slots.workers.Perm (List.range slots.nextId)

/-- One more connection is open. -/
def pushNext (slots : StageSlots) : StageSlots :=
  { slots with opened := slots.opened ++ [slots.nextId], nextId := slots.nextId + 1 }

/-- The most recently opened connection is closed. -/
def popLast (slots : StageSlots) : StageSlots :=
  { slots with
    opened := slots.opened.dropLast
    closed := slots.closed ++ slots.opened.getLast?.toList }

theorem Numbered.pushNext {slots : StageSlots} (h : slots.Numbered) : slots.pushNext.Numbered := by
  show (slots.closed ++ (slots.opened ++ [slots.nextId])).Perm (List.range (slots.nextId + 1))
  rw [← List.append_assoc, List.range_succ]
  exact List.Perm.append_right _ h

theorem Numbered.popLast {slots : StageSlots} (h : slots.Numbered) : slots.popLast.Numbered := by
  have hlast : slots.opened.dropLast ++ slots.opened.getLast?.toList = slots.opened := by
    rcases List.eq_nil_or_concat slots.opened with hnil | ⟨rest, last, hcons⟩
    · rw [hnil]
      rfl
    · rw [hcons]
      simp
  show ((slots.closed ++ slots.opened.getLast?.toList) ++ slots.opened.dropLast).Perm
    (List.range slots.nextId)
  rw [List.append_assoc]
  refine (List.Perm.append_left _ List.perm_append_comm).trans ?_
  rw [hlast]
  exact h

theorem Numbered.openTo {slots : StageSlots} (h : slots.Numbered) (wanted : ℕ) :
    (slots.openTo wanted).Numbered := by
  fun_induction StageSlots.openTo wanted slots with
  | case1 slots hlt ih => exact ih h.pushNext
  | case2 slots hge => exact h

theorem Numbered.closeTo {slots : StageSlots} (h : slots.Numbered) (wanted : ℕ) :
    (slots.closeTo wanted).Numbered := by
  fun_induction StageSlots.closeTo wanted slots with
  | case1 slots hlt ih => exact ih h.popLast
  | case2 slots hge => exact h

/-- The numbers count up from 0 at every moment of a staged run. -/
theorem numbered_foldl_tick (wanted : List ℕ) : (wanted.foldl tick {}).Numbered := by
  induction wanted using List.reverseRecOn with
  | nil => exact List.Perm.refl _
  | append_singleton wanted last ih =>
    rw [List.foldl_append]
    exact (ih.openTo last).closeTo last

end StageSlots

/-- The connections that an agent with a share of `config` can open, by their
numbers. -/
inductive Opens (config : LoadTestConfig) (share : WireConfig) : List ℕ → Prop where
  | fixed (cancelled : ℕ → Bool) :
    share.arrivals = none → share.stages = [] →
    Opens config share (startWorkers share.connections cancelled)
  | staged (ticks : List Duration) :
    share.arrivals = none → share.stages ≠ [] →
    Opens config share
      ((ticks.map (share.withStages config).stageTarget).foldl StageSlots.tick {}).workers
  /-- The sessions of an arrival run are collected before it ends. -/
  | arrivals (run : ArrivalRun) (names : RecorderId → List String) (trace : List ArrivalEvent)
      (counts : ArrivalCounts) (totals : MetricsTotals) :
    share.arrivals = some ⟨run.arrivals.rate, run.arrivals.sessionDuration,
      run.arrivals.maxConnections⟩ →
    0 < run.arrivals.rate →
    Proc.Runs (run.runArrivals .new) trace (some (counts, totals)) →
    (ArrivalLedger.monitor run names).Accepts {} trace →
    Opens config share
      (((ArrivalLedger.monitor run names).after {} trace).collected.map Finished.id)

/-- **One machine numbers its connections from 0, without a gap.** -/
theorem Opens.perm_range {config : LoadTestConfig} {share : WireConfig} {ids : List ℕ}
    (h : Opens config share ids) : ids.Perm (List.range ids.length) := by
  have hlength : ∀ {ids : List ℕ} {n : ℕ}, ids.Perm (List.range n) →
      ids.Perm (List.range ids.length) := by
    intro ids n hperm
    rw [hperm.length_eq, List.length_range]
    exact hperm
  cases h with
  | fixed cancelled harrivals hstages =>
    obtain ⟨n, hn⟩ : ∃ n, startWorkers share.connections cancelled = List.range n := by
      have hprefix := List.takeWhile_prefix (l := List.range share.connections)
        fun workerId => !cancelled workerId
      rw [List.prefix_iff_eq_take, List.take_range] at hprefix
      exact ⟨_, hprefix⟩
    rw [hn]
    exact hlength (List.Perm.refl _)
  | staged ticks harrivals hstages => exact hlength (StageSlots.numbered_foldl_tick _)
  | arrivals run names trace counts totals harrivals hrate hruns haccepts =>
    obtain ⟨-, hend⟩ := (ArrivalLedger.monitor run names).wp_sound hruns
      (s := {}) ⟨Nat.zero_le _, rfl⟩ (attends_runArrivals hrate {} rfl) haccepts
    exact hlength (hend (counts, totals) rfl).once

/-! ## The connections of a run

A connection of a run is named here by its agent and by its place among the
connections of that agent, which two connections never share. -/

/-- What a connection's `{{worker_id}}` is replaced by: in a payload of frame
`seq`, and with no variables and frame 0 in its handshake. -/
def workerIdText (config : LoadTestConfig) (workerId : ℕ) (vars : List String) (seq nowMs : ℕ) :
    String :=
  Part.workerId.render (templateValues config workerId vars seq nowMs)

theorem workerIdText_inj {config config' : LoadTestConfig} {n n' : ℕ} {vars vars' : List String}
    {seq seq' nowMs nowMs' : ℕ} :
    workerIdText config n vars seq nowMs = workerIdText config' n' vars' seq' nowMs' ↔ n = n' :=
  Nat.repr_inj

/-- The number of a connection, given the agent that opened it and its place
among the connections of that agent. -/
def numberOf (ids : List (List ℕ)) (slot : ℕ × ℕ) : Option ℕ := ids[slot.1]?.bind (·[slot.2]?)

/-- Different connections of a run fill `{{worker_id}}` in differently. -/
def DistinctIds (ids : List (List ℕ)) : Prop :=
  ∀ slot slot' : ℕ × ℕ, slot ≠ slot' →
    ∀ n ∈ numberOf ids slot, ∀ n' ∈ numberOf ids slot',
      ∀ (config config' : LoadTestConfig) (vars vars' : List String) (seq seq' nowMs nowMs' : ℕ),
        workerIdText config n vars seq nowMs ≠ workerIdText config' n' vars' seq' nowMs'

/-- The connections of a run fill `{{worker_id}}` in with the numbers that one
machine gives. -/
def AsOnOneMachine (ids : List (List ℕ)) (connections : ℕ) : Prop :=
  ∀ (config : LoadTestConfig) (vars : List String) (seq nowMs : ℕ),
    (ids.flatten.map fun n => workerIdText config n vars seq nowMs).Perm
      ((List.range connections).map fun n => toString n)

/-- A run that keeps its connections open, and opened them all. -/
structure AllOpened (config : LoadTestConfig) (shares : List WireConfig) (ids : List (List ℕ)) :
    Prop where
  arrivals : config.arrivals = none
  stages : config.stages = []
  opened : ids.map List.length = shares.map WireConfig.connections

/-- No two agents open a connection. -/
def OneOpens (ids : List (List ℕ)) : Prop :=
  ∀ (i j : ℕ) (mine others : List ℕ), ids[i]? = some mine → ids[j]? = some others →
    mine ≠ [] → others ≠ [] → i = j

theorem perm_range_of_forall₂ {config : LoadTestConfig} {shares : List WireConfig}
    {ids : List (List ℕ)} (h : List.Forall₂ (Opens config) shares ids) :
    ∀ mine ∈ ids, mine.Perm (List.range mine.length) := by
  induction h with
  | nil => simp
  | cons hopens hrest ih =>
    intro mine hmine
    rcases List.mem_cons.mp hmine with rfl | hin
    · exact hopens.perm_range
    · exact ih mine hin

/-- Every agent that opens a connection has a connection 0. -/
theorem exists_numberOf_zero {ids : List (List ℕ)} (hperm : ∀ mine ∈ ids,
      mine.Perm (List.range mine.length)) {i : ℕ} {mine : List ℕ} (hi : ids[i]? = some mine)
    (hmine : mine ≠ []) : ∃ k, numberOf ids (i, k) = some 0 := by
  have hmem : 0 ∈ mine := by
    rw [(hperm mine (List.mem_of_getElem? hi)).mem_iff, List.mem_range]
    exact List.length_pos_iff.mpr hmine
  obtain ⟨k, hk⟩ := List.mem_iff_getElem?.mp hmem
  refine ⟨k, ?_⟩
  unfold numberOf
  rw [hi]
  exact hk

/-- **When the numbers of a run are distinct.** -/
theorem distinctIds_iff {ids : List (List ℕ)}
    (hperm : ∀ mine ∈ ids, mine.Perm (List.range mine.length)) :
    DistinctIds ids ↔ OneOpens ids := by
  constructor
  · intro hdistinct i j mine others hmine hothers hne hne'
    by_contra hij
    -- two agents that open a connection both have a connection 0
    obtain ⟨k, hk⟩ := exists_numberOf_zero hperm hmine hne
    obtain ⟨l, hl⟩ := exists_numberOf_zero hperm hothers hne'
    have hslots : (i, k) ≠ (j, l) := fun heq => hij (Prod.mk.inj heq).1
    exact hdistinct (i, k) (j, l) hslots 0 hk 0 hl (.defaults "") (.defaults "") [] [] 0 0 0 0 rfl
  · rintro hone ⟨i, k⟩ ⟨j, l⟩ hslots n hn n' hn' config config' vars vars' seq seq' nowMs nowMs'
    -- one agent opens them all, and numbers them without a gap
    obtain ⟨mine, hmine, hk⟩ := Option.bind_eq_some_iff.mp hn
    obtain ⟨others, hothers, hl⟩ := Option.bind_eq_some_iff.mp hn'
    have hij : i = j := hone i j mine others hmine hothers
      (List.ne_nil_of_mem (List.mem_of_getElem? hk)) (List.ne_nil_of_mem (List.mem_of_getElem? hl))
    subst hij
    obtain rfl : mine = others := Option.some.inj (hmine.symm.trans hothers)
    have hkl : k ≠ l := fun heq => hslots (congrArg (Prod.mk i) heq)
    have hnodup : mine.Nodup :=
      (hperm mine (List.mem_of_getElem? hmine)).nodup_iff.mpr List.nodup_range
    rw [ne_eq, workerIdText_inj]
    rintro rfl
    exact hkl ((List.getElem?_inj (List.getElem?_eq_some_iff.mp hk).1 hnodup).mp
      (hk.trans hl.symm))

/-- The connections of a run that opened them all. -/
theorem AllOpened.parts {config : LoadTestConfig} {agents : ℕ} {shares : List WireConfig}
    {ids : List (List ℕ)} (hall : AllOpened config shares ids)
    (hplan : plan config agents = .ok shares) :
    ids.map List.length = EvenSplit.parts config.connections agents := by
  rw [hall.opened, plan_connections hplan]

/-- In a run that opened all its connections, every agent opened one. -/
theorem AllOpened.oneOpens_iff {config : LoadTestConfig} {agents : ℕ} {shares : List WireConfig}
    {ids : List (List ℕ)} (hall : AllOpened config shares ids)
    (hplan : plan config agents = .ok shares) : OneOpens ids ↔ agents = 1 := by
  obtain ⟨hok, -⟩ := plan_eq_ok hplan
  have hparts := hall.parts hplan
  have hlength : ids.length = agents := by
    rw [← List.length_map, hparts, EvenSplit.length_parts]
  have hne : ∀ mine ∈ ids, mine ≠ [] := by
    rintro _ hmine rfl
    -- its share would be 0, but there are at least as many connections as agents
    have hzero : 0 ∈ EvenSplit.parts config.connections agents := by
      rw [← hparts]
      exact List.mem_map_of_mem hmine
    have hpos := EvenSplit.pos_of_mem_parts hok.agents_pos (hok.connections_le hall.arrivals) 0 hzero
    exact absurd hpos (lt_irrefl 0)
  constructor
  · intro hone
    by_contra hmany
    -- the first two agents both opened connections
    have htwo : 1 < ids.length := by
      have hpos := hok.agents_pos
      omega
    have h01 : (0 : ℕ) = 1 := hone 0 1 _ _
      (List.getElem?_eq_getElem (htwo.trans' Nat.zero_lt_one)) (List.getElem?_eq_getElem htwo)
      (hne _ (List.getElem_mem _)) (hne _ (List.getElem_mem _))
    exact absurd h01 Nat.zero_ne_one
  · rintro rfl i j mine others hmine hothers - -
    have hi : i < ids.length := (List.getElem?_eq_some_iff.mp hmine).1
    have hj : j < ids.length := (List.getElem?_eq_some_iff.mp hothers).1
    rw [hlength, Nat.lt_one_iff] at hi hj
    rw [hi, hj]

/-- A run that keeps its connections open opens them all when it is not
cancelled. -/
theorem opens_all {config : LoadTestConfig} {agents : ℕ} {shares : List WireConfig}
    (hplan : plan config agents = .ok shares) (harrivals : config.arrivals = none)
    (hstages : config.stages = []) :
    List.Forall₂ (Opens config) shares
        ((EvenSplit.parts config.connections agents).map List.range) ∧
      AllOpened config shares ((EvenSplit.parts config.connections agents).map List.range) := by
  have hfixed : ∀ share ∈ shares, share.arrivals = none ∧ share.stages = [] := by
    obtain ⟨-, base, hbase, rfl⟩ := plan_eq_ok hplan
    intro share hshare
    obtain ⟨index, -, rfl⟩ := List.mem_map.mp hshare
    obtain ⟨hstages', hbase'⟩ := WireConfig.fromConfig_profile hbase
    rw [hstages, List.map_nil] at hstages'
    rw [harrivals, Option.map_none] at hbase'
    exact ⟨by show Option.map _ base.arrivals = none; rw [hbase', Option.map_none], hstages'⟩
  have hrange : ∀ n, startWorkers n (fun _ => false) = List.range n := by
    intro n
    simp [startWorkers]
  rw [← plan_connections hplan, List.map_map]
  refine ⟨?_, harrivals, hstages, by simp⟩
  rw [List.forall₂_map_right_iff, List.forall₂_same]
  intro share hshare
  have hopens := @Opens.fixed config share (fun _ => false) (hfixed share hshare).1
    (hfixed share hshare).2
  rw [hrange] at hopens
  exact hopens

/-- The numbers of one agent are those of one machine. -/
theorem AllOpened.asOnOneMachine {config : LoadTestConfig} {shares : List WireConfig}
    {ids : List (List ℕ)} (hall : AllOpened config shares ids)
    (hperm : ∀ mine ∈ ids, mine.Perm (List.range mine.length))
    (hplan : plan config 1 = .ok shares) : AsOnOneMachine ids config.connections := by
  have hparts := hall.parts hplan
  have hlength : ids.length = 1 := by
    rw [← List.length_map, hparts, EvenSplit.length_parts]
  obtain ⟨mine, rfl⟩ := List.length_eq_one_iff.mp hlength
  have hmine : mine.length = config.connections := by
    have hsum := congrArg List.sum hparts
    rw [EvenSplit.sum_parts _ Nat.zero_lt_one] at hsum
    simpa using hsum
  intro config' vars seq nowMs
  show (([mine] : List (List ℕ)).flatten.map fun n => toString n).Perm _
  rw [List.flatten_singleton, ← hmine]
  exact (hperm mine List.mem_cons_self).map _

/-- **The numbers of a run are those of one machine when one agent opens its
connections**, and only then. When every agent opens its share, that is a run
with one agent. -/
theorem workerIds_distinct_iff (config : LoadTestConfig) (agents : ℕ) (shares : List WireConfig)
    (hplan : plan config agents = .ok shares) (ids : List (List ℕ))
    (hids : List.Forall₂ (Opens config) shares ids) :
    ((DistinctIds ids ∧ (AllOpened config shares ids → AsOnOneMachine ids config.connections))
      ↔ OneOpens ids)
    ∧ (AllOpened config shares ids → (OneOpens ids ↔ agents = 1)) := by
  have hperm := perm_range_of_forall₂ hids
  refine ⟨⟨fun h => (distinctIds_iff hperm).mp h.1, fun hone => ?_⟩, fun hall =>
    hall.oneOpens_iff hplan⟩
  refine ⟨(distinctIds_iff hperm).mpr hone, fun hall => ?_⟩
  obtain rfl := (hall.oneOpens_iff hplan).mp hone
  exact hall.asOnOneMachine hperm hplan

/-- Two connections, to be shared by agents. -/
def twoConnections : LoadTestConfig :=
  { LoadTestConfig.defaults "ws://127.0.0.1:9001" with connections := 2 }

/-- One agent opens both connections. -/
theorem workerIds_distinct_one : DistinctIds [[0, 1]] ∧ AsOnOneMachine [[0, 1]] 2 := by
  obtain ⟨shares, hplan⟩ : ∃ shares, plan twoConnections 1 = .ok shares := ⟨_, rfl⟩
  obtain ⟨hids, hall⟩ := opens_all hplan rfl rfl
  have hiff := workerIds_distinct_iff twoConnections 1 shares hplan [[0, 1]] hids
  obtain ⟨hdistinct, hsame⟩ := hiff.1.mpr ((hiff.2 hall).mpr rfl)
  exact ⟨hdistinct, hsame hall⟩

/-- Two agents that open one connection each both call it 0. -/
theorem workerIds_clash : ∃ shares, plan twoConnections 2 = .ok shares ∧
    List.Forall₂ (Opens twoConnections) shares [[0], [0]] ∧
    AllOpened twoConnections shares [[0], [0]] ∧
    ¬ DistinctIds [[0], [0]] ∧ ¬ AsOnOneMachine [[0], [0]] 2 := by
  obtain ⟨shares, hplan⟩ : ∃ shares, plan twoConnections 2 = .ok shares := ⟨_, rfl⟩
  obtain ⟨hids, hall⟩ := opens_all hplan rfl rfl
  refine ⟨shares, hplan, hids, hall, fun hdistinct => ?_, fun hsame => ?_⟩
  · exact hdistinct (0, 0) (1, 0) (by decide) 0 rfl 0 rfl twoConnections twoConnections
      [] [] 0 0 0 0 rfl
  · have hone : "1" ∈ (List.range 2).map fun n => toString n := by decide
    have hmem := ((hsame twoConnections [] 0 0).mem_iff).mpr hone
    revert hmem
    decide

end WsBlast
