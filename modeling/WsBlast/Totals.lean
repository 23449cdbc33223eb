import WsBlast.Metrics

/-!
# Totals over any number of workers

`MetricsTotals` adds up histograms and counters over workers, over the
phases of a scenario and over the agents of a distributed run, and
`MetricsTotals.finish` summarises them into `AggregatedMetrics`.

A recorder that several workers share is added once: the totals remember
the recorders they have absorbed. Everything else is addition, and
`MetricsTotals.tally` makes that precise: it forgets the absorbed recorders
and the chaos seed, and on what is left every operation of the totals adds a
fixed amount (`tally_addRecorder`, `tally_addWorkerCounts`, `tally_add`). So
totals depend only on which workers and which recorders were added, not on
the order or the grouping (`tally_addWorkers`).

The reading as a sum is what turns statements about merging into algebra. Three
things are not sums and have to be kept apart. Recorders are shared, so they are
a set and not a multiset: two workers with one recorder contribute its
distributions once. The chaos seed is taken from whoever has one first. And a
key of the error map or of the actions is there or not, which is a zero of its
own (`WithZero`).
-/

namespace WsBlast

/-! ## Actions -/

namespace ActionCounts

instance : Zero ActionCounts := ⟨{}⟩

instance : Add ActionCounts :=
  ⟨fun a b => ⟨a.sent + b.sent, a.errors + b.errors,
    a.sentMessageErrors + b.sentMessageErrors⟩⟩

instance : AddCommMonoid ActionCounts where
  add_assoc a b c := by ext <;> exact Nat.add_assoc _ _ _
  zero_add a := by ext <;> exact Nat.zero_add _
  add_zero a := by ext <;> exact Nat.add_zero _
  add_comm a b := by ext <;> exact Nat.add_comm _ _
  nsmul := nsmulRec

end ActionCounts

/-- The totals of one action name. -/
@[ext]
structure ActionTotals where
  rtt : Histogram
  response : Histogram
  counts : ActionCounts

namespace ActionTotals

/-- No messages. -/
instance : Zero ActionTotals := ⟨⟨0, 0, 0⟩⟩

instance : Add ActionTotals :=
  ⟨fun a b => ⟨a.rtt + b.rtt, a.response + b.response, a.counts + b.counts⟩⟩

instance : AddCommMonoid ActionTotals where
  add_assoc a b c := ActionTotals.ext (add_assoc _ _ _) (add_assoc _ _ _) (add_assoc _ _ _)
  zero_add a := ActionTotals.ext (zero_add _) (zero_add _) (zero_add _)
  add_zero a := ActionTotals.ext (add_zero _) (add_zero _) (add_zero _)
  add_comm a b := ActionTotals.ext (add_comm _ _) (add_comm _ _) (add_comm _ _)
  nsmul := nsmulRec

/-- Adds a worker's counts. -/
def addCounts (totals : ActionTotals) (counts : ActionCounts) : ActionTotals :=
  { totals with counts := totals.counts + counts }

end ActionTotals

/-- Adds the distributions of action `index` to an action's totals. -/
def LatencyRecorder.addActionTo (r : LatencyRecorder) (index : ℕ) (totals : ActionTotals) :
    ActionTotals :=
  match r.actions[index]? with
  | none => totals
  | some action =>
    { totals with
      rtt := action.rtt.addTo totals.rtt
      response := action.response.addTo totals.response }

namespace ChaosSummary

/-- Adds `other`'s counts, keeping this summary's seed. -/
def add (chaos other : ChaosSummary) : ChaosSummary where
  seed := chaos.seed
  delayed := chaos.delayed + other.delayed
  dropped := chaos.dropped + other.dropped
  corrupted := chaos.corrupted + other.corrupted
  closes := chaos.closes + other.closes
  readPauses := chaos.readPauses + other.readPauses

/-- The counts without the seed. -/
def counts (chaos : ChaosSummary) : ℕ × ℕ × ℕ × ℕ × ℕ :=
  (chaos.delayed, chaos.dropped, chaos.corrupted, chaos.closes, chaos.readPauses)

end ChaosSummary

/-- Adds the chaos counts of `other` to `into`, taking `other`'s seed when
`into` has none yet. -/
def addChaos (into other : Option ChaosSummary) : Option ChaosSummary :=
  match into, other with
  | some into, some other => some (into.add other)
  | none, some other => some other
  | into, none => into

/-! ## Totals

The operations of the source, one for each thing that can be added: a recorder,
a worker's counters, a worker with its recorder, and totals that were made
elsewhere. -/

/-- Histograms and counters added up over any number of workers. -/
structure MetricsTotals where
  handshake : Histogram := 0
  rtt : Histogram := 0
  response : Histogram := 0
  messagesSent : ℕ := 0
  messagesRecv : ℕ := 0
  bytesSent : ℕ := 0
  bytesRecv : ℕ := 0
  reconnects : ℕ := 0
  unsolicitedFrames : ℕ := 0
  sentMessageErrors : ℕ := 0
  /-- Workers whose first handshake was in progress when the run ended. -/
  interrupted : ℕ := 0
  errors : TallyMap ErrorCategory ℕ := ∅
  /-- Injected faults, when any worker injected them. -/
  chaos : Option ChaosSummary := none
  /-- The latency recorders already added. -/
  absorbed : List RecorderId := []
  /-- Named scenario actions, by name. -/
  actions : TallyMap String ActionTotals := ∅

namespace MetricsTotals

/-- Empty totals. -/
def new : MetricsTotals := {}

/-- Updates the totals of action `name`, created when first needed. -/
def action (totals : MetricsTotals) (name : String) (f : ActionTotals → ActionTotals) :
    MetricsTotals :=
  { totals with
    actions := totals.actions.alter name fun held => some (f (held.getD 0)) }

/-- Updates the totals of every action of `names`, each by its position. -/
def forActions (totals : MetricsTotals) (names : List String)
    (f : ℕ → ActionTotals → ActionTotals) : MetricsTotals :=
  names.zipIdx.foldl (fun (totals : MetricsTotals) item => totals.action item.1 (f item.2)) totals

/-- Adds a latency recorder's distributions, once however many workers share
it. -/
def addRecorder (recorders : RecorderId → LatencyRecorder) (totals : MetricsTotals)
    (latency : RecorderId) : MetricsTotals :=
  if latency ∈ totals.absorbed then totals
  else
    let r := recorders latency
    let totals :=
      { totals with
        handshake := r.handshake.addTo totals.handshake
        rtt := r.rtt.addTo totals.rtt
        response := r.response.addTo totals.response }
    let totals := totals.forActions r.actionNames r.addActionTo
    { totals with absorbed := totals.absorbed ++ [latency] }

/-- Adds one worker's counters, but not its latency recorder. -/
def addWorkerCounts (recorders : RecorderId → LatencyRecorder) (totals : MetricsTotals)
    (w : WorkerMetrics) : MetricsTotals :=
  let totals := totals.forActions (recorders w.latency).actionNames fun index action =>
    match w.actions[index]? with
    | none => action
    | some counts => action.addCounts counts
  { totals with
    messagesSent := totals.messagesSent + w.messagesSent
    messagesRecv := totals.messagesRecv + w.messagesRecv
    bytesSent := totals.bytesSent + w.bytesSent
    bytesRecv := totals.bytesRecv + w.bytesRecv
    reconnects := totals.reconnects + w.reconnects
    unsolicitedFrames := totals.unsolicitedFrames + w.unsolicitedFrames
    sentMessageErrors := totals.sentMessageErrors + w.sentMessageErrors
    interrupted := totals.interrupted + w.interrupted.toNat
    errors := totals.errors.addAll w.errors
    chaos := addChaos totals.chaos w.chaos }

/-- Adds one worker's metrics, and its latency recorder unless an earlier
worker shared it. -/
def addWorker (recorders : RecorderId → LatencyRecorder) (totals : MetricsTotals)
    (w : WorkerMetrics) : MetricsTotals :=
  (totals.addRecorder recorders w.latency).addWorkerCounts recorders w

/-- Adds the workers of a run, one after the other. -/
def addWorkers (recorders : RecorderId → LatencyRecorder) (totals : MetricsTotals)
    (workers : List WorkerMetrics) : MetricsTotals :=
  workers.foldl (addWorker recorders) totals

/-- Adds totals built elsewhere. The program fails when a histogram has
other bounds, which the type of the histograms rules out here. -/
def add (totals other : MetricsTotals) : MetricsTotals :=
  let totals :=
    { totals with
      handshake := totals.handshake + other.handshake
      rtt := totals.rtt + other.rtt
      response := totals.response + other.response
      messagesSent := totals.messagesSent + other.messagesSent
      messagesRecv := totals.messagesRecv + other.messagesRecv
      bytesSent := totals.bytesSent + other.bytesSent
      bytesRecv := totals.bytesRecv + other.bytesRecv
      reconnects := totals.reconnects + other.reconnects
      unsolicitedFrames := totals.unsolicitedFrames + other.unsolicitedFrames
      sentMessageErrors := totals.sentMessageErrors + other.sentMessageErrors
      interrupted := totals.interrupted + other.interrupted
      errors := totals.errors.addAll other.errors
      chaos := addChaos totals.chaos other.chaos }
  other.actions.foldl (fun totals name theirs =>
    totals.action name fun ours => (⟨ours.rtt + theirs.rtt, ours.response + theirs.response,
      ours.counts⟩ : ActionTotals).addCounts theirs.counts) totals

/-! ## Totals as a sum

For every operation a lemma of the form *the tally afterwards is the tally
before and an amount that depends on what was added alone*. -/

/-- What totals say once the absorbed recorders and the chaos seed are
forgotten: the three histograms, the eight counters, the error map, the
chaos counts and the actions. Each part is added up on its own. -/
abbrev Tally : Type :=
  Histogram × Histogram × Histogram × (ℕ × ℕ × ℕ × ℕ × ℕ × ℕ × ℕ × ℕ)
    × (ErrorCategory → WithZero ℕ) × WithZero (ℕ × ℕ × ℕ × ℕ × ℕ)
    × (String → WithZero ActionTotals)

/-- The chaos counts, without the seed. -/
def chaosTally (chaos : Option ChaosSummary) : WithZero (ℕ × ℕ × ℕ × ℕ × ℕ) :=
  chaos.map ChaosSummary.counts

/-- The sum behind some totals. -/
def tally (totals : MetricsTotals) : Tally :=
  (totals.handshake, totals.rtt, totals.response,
    (totals.messagesSent, totals.messagesRecv, totals.bytesSent, totals.bytesRecv,
      totals.reconnects, totals.unsolicitedFrames, totals.sentMessageErrors,
      totals.interrupted),
    totals.errors.lookup, chaosTally totals.chaos, totals.actions.lookup)

/-- A sum with nothing but the totals of one action. -/
def actionTally (name : String) (totals : ActionTotals) : Tally :=
  (0, 0, 0, 0, 0, 0, Pi.single name (totals : WithZero ActionTotals))

/-- Chaos counts add up whichever seed is kept. -/
theorem chaosTally_addChaos (into other : Option ChaosSummary) :
    chaosTally (addChaos into other) = chaosTally into + chaosTally other := by
  cases into with
  | none =>
    cases other with
    | none => exact (add_zero _).symm
    | some other => exact (zero_add (chaosTally (some other))).symm
  | some into =>
    cases other with
    | none => exact (add_zero (chaosTally (some into))).symm
    | some other => rfl

/-- Updating one action by addition adds to the sum. -/
theorem tally_action (totals : MetricsTotals) (name : String) {f : ActionTotals → ActionTotals}
    {amount : ActionTotals} (hf : ∀ a, f a = a + amount) :
    (totals.action name f).tally = totals.tally + actionTally name amount := by
  have hbump : (totals.action name f).actions = totals.actions.bump name amount := by
    unfold action TallyMap.bump
    simp only [hf]
  unfold tally actionTally
  rw [hbump, TallyMap.lookup_bump]
  simp only [Prod.mk_add_mk, add_zero]
  rfl

/-- Updating a list of actions by addition, one after the other. -/
theorem tally_foldl_action {A : Type} {f : A → ActionTotals → ActionTotals}
    {amount : A → ActionTotals} (hf : ∀ x a, f x a = a + amount x)
    (name : A → String) (items : List A) (totals : MetricsTotals) :
    (items.foldl (fun (totals : MetricsTotals) x => totals.action (name x) (f x)) totals).tally
      = totals.tally + (items.map fun x => actionTally (name x) (amount x)).sum := by
  induction items generalizing totals with
  | nil => simp
  | cons x rest ih =>
    rw [List.foldl_cons, ih, tally_action totals (name x) (hf x), List.map_cons, List.sum_cons,
      add_assoc]

/-- A sum with nothing but the totals of a list of actions. -/
def actionsTally (names : List String) (amount : ℕ → ActionTotals) : Tally :=
  (names.zipIdx.map fun item => actionTally item.1 (amount item.2)).sum

/-- Updating every action of a list by addition. -/
theorem tally_forActions (totals : MetricsTotals) (names : List String)
    {f : ℕ → ActionTotals → ActionTotals} {amount : ℕ → ActionTotals}
    (hf : ∀ index a, f index a = a + amount index) :
    (totals.forActions names f).tally = totals.tally + actionsTally names amount :=
  tally_foldl_action (fun item a => hf item.2 a) Prod.fst names.zipIdx totals

/-- Updating actions absorbs no recorder. -/
@[simp] theorem absorbed_forActions (totals : MetricsTotals) (names : List String)
    (f : ℕ → ActionTotals → ActionTotals) :
    (totals.forActions names f).absorbed = totals.absorbed := by
  unfold forActions
  induction names.zipIdx generalizing totals with
  | nil => rfl
  | cons item rest ih => exact ih (totals.action item.1 (f item.2))

/-- The distributions of one action of a recorder. -/
def recordedAction (r : LatencyRecorder) (index : ℕ) : ActionTotals :=
  match r.actions[index]? with
  | none => 0
  | some action => ⟨action.rtt.counts, action.response.counts, 0⟩

/-- What a recorder adds to the totals that absorb it. -/
def recorderTally (r : LatencyRecorder) : Tally :=
  (r.handshake.counts, r.rtt.counts, r.response.counts, 0, 0, 0, 0)
    + actionsTally r.actionNames (recordedAction r)

/-- What a worker's counters add, given the action names of its recorder. -/
def workerTally (names : List String) (w : WorkerMetrics) : Tally :=
  actionsTally names (fun index => ⟨0, 0, (w.actions[index]?).getD 0⟩)
    + (0, 0, 0,
      (w.messagesSent, w.messagesRecv, w.bytesSent, w.bytesRecv, w.reconnects,
        w.unsolicitedFrames, w.sentMessageErrors, w.interrupted.toNat),
      w.errors.lookup, chaosTally w.chaos, 0)

/-- A recorder's action is added to the action's totals. -/
theorem addActionTo_eq (r : LatencyRecorder) (index : ℕ) (totals : ActionTotals) :
    r.addActionTo index totals = totals + recordedAction r index := by
  unfold LatencyRecorder.addActionTo recordedAction
  cases r.actions[index]? with
  | none => exact (add_zero _).symm
  | some action =>
    refine ActionTotals.ext ?_ ?_ ?_
    · exact AtomicHistogram.addTo_eq _ _
    · exact AtomicHistogram.addTo_eq _ _
    · exact (add_zero _).symm

/-- **A recorder is added once.** -/
theorem tally_addRecorder (recorders : RecorderId → LatencyRecorder) (totals : MetricsTotals)
    (latency : RecorderId) :
    (totals.addRecorder recorders latency).tally
      = totals.tally
        + if latency ∈ totals.absorbed then 0 else recorderTally (recorders latency) := by
  unfold addRecorder
  by_cases hmem : latency ∈ totals.absorbed
  · rw [if_pos hmem, if_pos hmem, add_zero]
  · rw [if_neg hmem, if_neg hmem]
    show (MetricsTotals.forActions _ _ _).tally = _
    rw [tally_forActions _ _ (addActionTo_eq (recorders latency))]
    unfold recorderTally
    rw [← add_assoc]
    congr 1
    unfold tally
    simp only [AtomicHistogram.addTo_eq, Prod.mk_add_mk, add_zero]

/-- The recorders absorbed after a recorder was added. -/
theorem mem_absorbed_addRecorder (recorders : RecorderId → LatencyRecorder)
    (totals : MetricsTotals) (latency id : RecorderId) :
    id ∈ (totals.addRecorder recorders latency).absorbed
      ↔ id = latency ∨ id ∈ totals.absorbed := by
  unfold addRecorder
  by_cases hmem : latency ∈ totals.absorbed
  · rw [if_pos hmem]
    constructor
    · exact Or.inr
    · rintro (rfl | h)
      · exact hmem
      · exact h
  · rw [if_neg hmem]
    show id ∈ (MetricsTotals.forActions _ _ _).absorbed ++ [latency] ↔ _
    rw [absorbed_forActions, List.mem_append, List.mem_singleton, or_comm]

/-- **A worker's counters are added.** -/
theorem tally_addWorkerCounts (recorders : RecorderId → LatencyRecorder)
    (totals : MetricsTotals) (w : WorkerMetrics) :
    (totals.addWorkerCounts recorders w).tally
      = totals.tally + workerTally (recorders w.latency).actionNames w := by
  have hcounts : ∀ (index : ℕ) (action : ActionTotals),
      (match w.actions[index]? with
        | none => action
        | some counts => action.addCounts counts)
      = action + ⟨0, 0, (w.actions[index]?).getD 0⟩ := by
    intro index action
    cases w.actions[index]? with
    | none => exact (add_zero action).symm
    | some counts => exact ActionTotals.ext (add_zero _).symm (add_zero _).symm rfl
  unfold workerTally
  rw [← add_assoc, ← tally_forActions totals _ hcounts]
  unfold addWorkerCounts tally
  simp only [chaosTally_addChaos, TallyMap.lookup_addAll, Prod.mk_add_mk, add_zero]

@[simp] theorem absorbed_addWorkerCounts (recorders : RecorderId → LatencyRecorder)
    (totals : MetricsTotals) (w : WorkerMetrics) :
    (totals.addWorkerCounts recorders w).absorbed = totals.absorbed :=
  absorbed_forActions _ _ _

/-- **Workers are added up**: their counters, and each recorder they use that
was not absorbed before. -/
theorem tally_addWorkers (recorders : RecorderId → LatencyRecorder)
    (workers : List WorkerMetrics) (totals : MetricsTotals) :
    (totals.addWorkers recorders workers).tally
      = totals.tally
        + (workers.map fun w => workerTally (recorders w.latency).actionNames w).sum
        + ∑ id ∈ (workers.map WorkerMetrics.latency).toFinset \ totals.absorbed.toFinset,
            recorderTally (recorders id) := by
  -- by induction on the workers; a recorder is counted for the first of them that uses it
  induction workers generalizing totals with
  | nil => simp [addWorkers]
  | cons w rest ih =>
    show ((totals.addWorker recorders w).addWorkers recorders rest).tally = _
    rw [ih]
    unfold addWorker
    rw [tally_addWorkerCounts, tally_addRecorder, List.map_cons, List.sum_cons, List.map_cons,
      List.toFinset_cons, absorbed_addWorkerCounts]
    have habsorbed : (totals.addRecorder recorders w.latency).absorbed.toFinset
        = insert w.latency totals.absorbed.toFinset := by
      ext id
      rw [List.mem_toFinset, mem_absorbed_addRecorder, Finset.mem_insert, List.mem_toFinset]
    rw [habsorbed]
    by_cases hmem : w.latency ∈ totals.absorbed
    · -- the recorder is absorbed already, so it is in neither difference
      have hin : w.latency ∈ totals.absorbed.toFinset := List.mem_toFinset.mpr hmem
      rw [if_pos hmem, Finset.insert_eq_of_mem hin, Finset.insert_sdiff_of_mem _ hin]
      abel
    · have hout : w.latency ∉ totals.absorbed.toFinset := mt List.mem_toFinset.mp hmem
      have hinsert : insert w.latency (rest.map WorkerMetrics.latency).toFinset
            \ totals.absorbed.toFinset
          = insert w.latency ((rest.map WorkerMetrics.latency).toFinset
            \ insert w.latency totals.absorbed.toFinset) := by
        ext id
        rw [Finset.mem_sdiff, Finset.mem_insert, Finset.mem_insert, Finset.mem_sdiff,
          Finset.mem_insert]
        by_cases hid : id = w.latency
        · simp [hid, hout]
        · simp [hid]
      rw [if_neg hmem, hinsert, Finset.sum_insert (by simp)]
      abel

/-- **Adding totals adds their sums.** -/
theorem tally_add (totals other : MetricsTotals) :
    (totals.add other).tally = totals.tally + other.tally := by
  unfold add
  rw [Std.ExtTreeMap.foldl_eq_foldl_toList]
  have htheirs : ∀ (entry : String × ActionTotals) (ours : ActionTotals),
      (⟨ours.rtt + entry.2.rtt, ours.response + entry.2.response, ours.counts⟩
        : ActionTotals).addCounts entry.2.counts = ours + entry.2 := fun _ _ => rfl
  rw [tally_foldl_action htheirs Prod.fst]
  have hactions : ((other.actions.toList.map fun entry => actionTally entry.1 entry.2).sum : Tally)
      = (0, 0, 0, 0, 0, 0, other.actions.lookup) := by
    rw [← TallyMap.sum_single_toList]
    unfold actionTally
    induction other.actions.toList with
    | nil => rfl
    | cons entry rest ih =>
      rw [List.map_cons, List.sum_cons, ih, List.map_cons, List.sum_cons]
      simp only [Prod.mk_add_mk, add_zero]
  rw [hactions]
  unfold tally
  simp only [chaosTally_addChaos, TallyMap.lookup_addAll, Prod.mk_add_mk, add_zero]

end MetricsTotals

end WsBlast
