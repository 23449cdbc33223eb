import WsBlast.Totals

/-!
# Totals on the wire

An agent sends its `MetricsTotals` to the coordinator with every histogram
as its recorded values, `(value, count)` for every bucket with a count,
where `value` is the highest value the bucket holds (`Sparse`). Decoding
records these into an empty histogram with the same layout, which gives the
same buckets back, so a decoded `WireTotals` is the totals it was made from
(`WireTotals.intoTotals_ofTotals`).

Merging is then addition of sums (`MetricsTotals.tally`): what the
coordinator adds up is what one process with every worker would have added
up, whatever the partition into agents and the order of merging
(`mergeAgents_same_as_one_process`).

A histogram travels as the values it recorded, and not as its array of counts:
the array has thousands of places, nearly all of them zero in one run. The
highest value of a bucket stands for the bucket. That this loses nothing is a
fact about the layout (`Hdr.Hist.recordAll_iterRecorded`), since the highest
value of a bucket is a value of the bucket and the sums are over counts.
-/

namespace WsBlast

/-- A histogram as its recorded values. -/
abbrev Sparse := List (ℕ × ℕ)

section Sparse

variable {L : Hdr.Layout}

/-- The recorded values of `hist`: the highest value of each bucket with a
count, and the count. -/
def toSparse (hist : Hdr.Hist L) : Sparse := hist.iterRecorded

/-- Records `sparse` into `empty`. A value beyond the layout is an error, since
the histogram does not grow. -/
def fromSparse : Sparse → Hdr.Hist L → Except String (Hdr.Hist L)
  | [], empty => .ok empty
  | (value, count) :: rest, empty =>
    match empty.recordN value count with
    | some hist => fromSparse rest hist
    | none =>
      .error s!"histogram value {value} out of range: ValueOutOfRangeResizeDisabled"

theorem fromSparse_eq_ok {sparse : Sparse} {empty hist : Hdr.Hist L}
    (h : empty.recordAll sparse = some hist) : fromSparse sparse empty = .ok hist := by
  induction sparse generalizing empty with
  | nil => exact congrArg Except.ok (Option.some.inj h)
  | cons item rest ih =>
    obtain ⟨value, count⟩ := item
    obtain ⟨next, hnext, hrest⟩ := Option.bind_eq_some_iff.mp h
    show (match empty.recordN value count with
      | some hist => fromSparse rest hist
      | none => _) = _
    rw [hnext]
    exact ih hrest

/-- **A histogram survives the trip over the wire.** -/
theorem fromSparse_toSparse (hist : Hdr.Hist L) : fromSparse (toSparse hist) 0 = .ok hist := by
  refine fromSparse_eq_ok ?_
  unfold toSparse
  rw [Hdr.Hist.recordAll_iterRecorded, zero_add]

end Sparse

/-- One named action's totals on the wire. -/
structure WireActionTotals where
  name : String
  sent : ℕ
  errors : ℕ
  sentMessageErrors : ℕ
  rtt : Sparse
  response : Sparse

/-- An agent's `MetricsTotals` on the wire. -/
structure WireTotals where
  messagesSent : ℕ
  messagesRecv : ℕ
  bytesSent : ℕ
  bytesRecv : ℕ
  reconnects : ℕ
  unsolicitedFrames : ℕ
  sentMessageErrors : ℕ
  interrupted : ℕ
  errors : TallyMap ErrorCategory ℕ
  handshake : Sparse
  rtt : Sparse
  response : Sparse
  /-- The faults the agent injected, with its own seed. -/
  chaos : Option ChaosSummary
  /-- The agent's named scenario actions. -/
  actions : List WireActionTotals

/-- One action's totals as an agent sends them. -/
def WireActionTotals.ofTotals (name : String) (action : ActionTotals) : WireActionTotals where
  name := name
  sent := action.counts.sent
  errors := action.counts.errors
  sentMessageErrors := action.counts.sentMessageErrors
  rtt := toSparse action.rtt
  response := toSparse action.response

/-- Rebuilds one action's totals. -/
def WireActionTotals.intoTotals (action : WireActionTotals) :
    Except String (String × ActionTotals) := do
  let rtt ← fromSparse action.rtt 0
  let response ← fromSparse action.response 0
  pure (action.name, ⟨rtt, response, ⟨action.sent, action.errors, action.sentMessageErrors⟩⟩)

theorem WireActionTotals.intoTotals_ofTotals (name : String) (action : ActionTotals) :
    (ofTotals name action).intoTotals = .ok (name, action) := by
  unfold ofTotals intoTotals
  simp only [fromSparse_toSparse]
  rfl

namespace WireTotals

/-- The totals as an agent sends them. -/
def ofTotals (totals : MetricsTotals) : WireTotals where
  messagesSent := totals.messagesSent
  messagesRecv := totals.messagesRecv
  bytesSent := totals.bytesSent
  bytesRecv := totals.bytesRecv
  reconnects := totals.reconnects
  unsolicitedFrames := totals.unsolicitedFrames
  sentMessageErrors := totals.sentMessageErrors
  interrupted := totals.interrupted
  errors := totals.errors
  handshake := toSparse totals.handshake
  rtt := toSparse totals.rtt
  response := toSparse totals.response
  chaos := totals.chaos
  actions := totals.actions.toList.map fun entry => .ofTotals entry.1 entry.2

/-- Rebuilds the totals, histograms included. -/
def intoTotals (wire : WireTotals) : Except String MetricsTotals := do
  let handshake ← fromSparse wire.handshake 0
  let rtt ← fromSparse wire.rtt 0
  let response ← fromSparse wire.response 0
  let actions ← wire.actions.mapM WireActionTotals.intoTotals
  pure
    { handshake, rtt, response
      messagesSent := wire.messagesSent
      messagesRecv := wire.messagesRecv
      bytesSent := wire.bytesSent
      bytesRecv := wire.bytesRecv
      reconnects := wire.reconnects
      unsolicitedFrames := wire.unsolicitedFrames
      sentMessageErrors := wire.sentMessageErrors
      interrupted := wire.interrupted
      errors := wire.errors
      chaos := wire.chaos
      absorbed := []
      actions := Std.ExtTreeMap.ofList actions compare }

/-- Every action of a list survives the trip. -/
theorem mapM_intoTotals (entries : List (String × ActionTotals)) :
    (entries.map fun entry => WireActionTotals.ofTotals entry.1 entry.2).mapM
      WireActionTotals.intoTotals = .ok entries := by
  induction entries with
  | nil => rfl
  | cons entry rest ih =>
    rw [List.map_cons, List.mapM_cons, ih, WireActionTotals.intoTotals_ofTotals]
    rfl

/-- A map is the map of its entries. -/
theorem ofList_toList (actions : TallyMap String ActionTotals) :
    Std.ExtTreeMap.ofList actions.toList compare = actions := by
  refine Std.ExtTreeMap.ext_getElem? fun name => ?_
  cases hget : actions[name]? with
  | some totals =>
    rw [Std.ExtTreeMap.getElem?_ofList_of_mem Std.ReflCmp.compare_self
      actions.distinct_keys_toList]
    exact Std.ExtTreeMap.mem_toList_iff_getElem?_eq_some.mpr hget
  | none =>
    refine Std.ExtTreeMap.getElem?_ofList_of_contains_eq_false ?_
    rw [Bool.eq_false_iff, Ne, List.contains_iff_mem, List.mem_map]
    rintro ⟨⟨name', totals⟩, hmem, rfl⟩
    rw [Std.ExtTreeMap.mem_toList_iff_getElem?_eq_some.mp hmem] at hget
    cases hget

/-- **Decoding undoes encoding**, the absorbed recorders aside. -/
theorem intoTotals_ofTotals (totals : MetricsTotals) :
    (ofTotals totals).intoTotals = .ok { totals with absorbed := [] } := by
  unfold ofTotals intoTotals
  simp only [fromSparse_toSparse, mapM_intoTotals]
  show Except.ok _ = Except.ok _
  rw [ofList_toList]

end WireTotals

/-! ## Merging agents

Every total is a sum in a commutative monoid (`MetricsTotals.tally`), and adding
totals is addition there. -/

/-- Two totals that report the same: bucket by bucket, counter by counter,
category by category and action by action. The chaos seed and the recorders
they absorbed may differ. -/
structure SameTotals (a b : MetricsTotals) : Prop where
  handshake : a.handshake = b.handshake
  rtt : a.rtt = b.rtt
  response : a.response = b.response
  messagesSent : a.messagesSent = b.messagesSent
  messagesRecv : a.messagesRecv = b.messagesRecv
  bytesSent : a.bytesSent = b.bytesSent
  bytesRecv : a.bytesRecv = b.bytesRecv
  reconnects : a.reconnects = b.reconnects
  unsolicitedFrames : a.unsolicitedFrames = b.unsolicitedFrames
  sentMessageErrors : a.sentMessageErrors = b.sentMessageErrors
  interrupted : a.interrupted = b.interrupted
  errors : a.errors = b.errors
  chaos : a.chaos.map ChaosSummary.counts = b.chaos.map ChaosSummary.counts
  actions : a.actions = b.actions

/-- Totals with the same sum report the same. -/
theorem SameTotals.of_tally {a b : MetricsTotals} (h : a.tally = b.tally) : SameTotals a b := by
  unfold MetricsTotals.tally at h
  simp only [Prod.mk.injEq] at h
  obtain ⟨hh, hr, hp, ⟨h1, h2, h3, h4, h5, h6, h7, h8⟩, he, hc, ha⟩ := h
  exact ⟨hh, hr, hp, h1, h2, h3, h4, h5, h6, h7, h8, TallyMap.lookup_injective he, hc,
    TallyMap.lookup_injective ha⟩

/-- What the coordinator does with its agents: every agent adds up its
workers and sends the totals over the wire; the coordinator decodes them and
adds them up in the order given. -/
def mergeAgents (recorders : RecorderId → LatencyRecorder) (agents : List (List WorkerMetrics)) :
    Except String MetricsTotals := do
  let decoded ← agents.mapM fun workers =>
    (WireTotals.ofTotals (MetricsTotals.new.addWorkers recorders workers)).intoTotals
  pure (decoded.foldl MetricsTotals.add .new)

/-- The recorders that some workers use. -/
def recordersOf (workers : List WorkerMetrics) : Finset RecorderId :=
  (workers.map WorkerMetrics.latency).toFinset

section Merge

variable (recorders : RecorderId → LatencyRecorder)

/-- What workers and their recorders add to empty totals. -/
theorem tally_addWorkers_new (workers : List WorkerMetrics) :
    (MetricsTotals.new.addWorkers recorders workers).tally
      = (workers.map fun w =>
          MetricsTotals.workerTally (recorders w.latency).actionNames w).sum
        + ∑ id ∈ recordersOf workers, MetricsTotals.recorderTally (recorders id) := by
  have hzero : MetricsTotals.new.tally = 0 := by
    unfold MetricsTotals.new MetricsTotals.tally
    rw [TallyMap.lookup_empty, TallyMap.lookup_empty]
    rfl
  have habsorbed : MetricsTotals.new.absorbed.toFinset = ∅ := rfl
  rw [MetricsTotals.tally_addWorkers, hzero, zero_add, habsorbed, Finset.sdiff_empty]
  rfl

/-- Adding decoded totals one after the other adds their sums. -/
theorem tally_foldl_add (decoded : List MetricsTotals) (totals : MetricsTotals) :
    (decoded.foldl MetricsTotals.add totals).tally
      = totals.tally + (decoded.map MetricsTotals.tally).sum := by
  induction decoded generalizing totals with
  | nil => simp
  | cons next rest ih =>
    rw [List.foldl_cons, ih, MetricsTotals.tally_add, List.map_cons, List.sum_cons, add_assoc]

/-- The coordinator's totals exist and are the sum of the agents'. -/
theorem mergeAgents_eq_ok (agents : List (List WorkerMetrics)) :
    ∃ merged, mergeAgents recorders agents = .ok merged
      ∧ merged.tally = (agents.map fun workers =>
          (MetricsTotals.new.addWorkers recorders workers).tally).sum := by
  have hmap : ∀ agents : List (List WorkerMetrics), (agents.mapM fun workers =>
        (WireTotals.ofTotals (MetricsTotals.new.addWorkers recorders workers)).intoTotals)
      = .ok (agents.map fun workers =>
          { MetricsTotals.new.addWorkers recorders workers with absorbed := [] }) := by
    intro agents
    induction agents with
    | nil => rfl
    | cons workers rest ih =>
      rw [List.mapM_cons, ih, WireTotals.intoTotals_ofTotals]
      rfl
  unfold mergeAgents
  rw [hmap]
  refine ⟨_, rfl, ?_⟩
  rw [tally_foldl_add, List.map_map]
  have hzero := tally_addWorkers_new recorders []
  rw [show MetricsTotals.new.tally = 0 from hzero, zero_add]
  rfl

/-- Agents that share no recorder add up to what all their workers add. -/
theorem sum_tally_addWorkers {agents : List (List WorkerMetrics)}
    (hapart : agents.Pairwise fun a b => Disjoint (recordersOf a) (recordersOf b)) :
    (agents.map fun workers => (MetricsTotals.new.addWorkers recorders workers).tally).sum
      = (MetricsTotals.new.addWorkers recorders agents.flatten).tally := by
  induction agents with
  | nil => exact (tally_addWorkers_new recorders []).symm
  | cons workers rest ih =>
    rw [List.pairwise_cons] at hapart
    have hdisjoint : Disjoint (recordersOf workers) (recordersOf rest.flatten) := by
      rw [Finset.disjoint_left]
      intro id hid hrest
      unfold recordersOf at hrest
      rw [List.mem_toFinset, List.mem_map] at hrest
      obtain ⟨w, hw, rfl⟩ := hrest
      obtain ⟨other, hother, hmem⟩ := List.mem_flatten.mp hw
      refine Finset.disjoint_left.mp (hapart.1 other hother) hid ?_
      exact List.mem_toFinset.mpr (List.mem_map_of_mem hmem)
    have hunion : recordersOf (workers ++ rest.flatten)
        = recordersOf workers ∪ recordersOf rest.flatten := by
      unfold recordersOf
      rw [List.map_append, List.toFinset_append]
    rw [List.map_cons, List.sum_cons, ih hapart.2, List.flatten_cons, tally_addWorkers_new,
      tally_addWorkers_new, tally_addWorkers_new, hunion, Finset.sum_union hdisjoint,
      List.map_append, List.sum_append]
    abel

/-- The order in which workers are added does not matter. -/
theorem tally_addWorkers_perm {workers workers' : List WorkerMetrics}
    (h : workers.Perm workers') :
    (MetricsTotals.new.addWorkers recorders workers).tally
      = (MetricsTotals.new.addWorkers recorders workers').tally := by
  have hrecorders : recordersOf workers = recordersOf workers' :=
    List.toFinset_eq_of_perm _ _ (h.map _)
  rw [tally_addWorkers_new, tally_addWorkers_new, hrecorders, (h.map _).sum_eq]

/-! ### One recorder for every worker

The comparison with one process needs one recorder for all workers. -/

/-- `shared` holds what the recorders `ids` hold together, for the same named
actions: the recorder of a single process that ran the workers of all of
them. -/
structure Pools (ids : Finset RecorderId) (shared : LatencyRecorder) : Prop where
  names : ∀ id ∈ ids, (recorders id).actionNames = shared.actionNames
  handshake : shared.handshake.counts = ∑ id ∈ ids, (recorders id).handshake.counts
  rtt : shared.rtt.counts = ∑ id ∈ ids, (recorders id).rtt.counts
  response : shared.response.counts = ∑ id ∈ ids, (recorders id).response.counts
  actions : ∀ index, MetricsTotals.recordedAction shared index
    = ∑ id ∈ ids, MetricsTotals.recordedAction (recorders id) index

/-- The sum of one action's totals over a non-empty set. -/
theorem actionTally_sum {ids : Finset RecorderId} (hne : ids.Nonempty) (name : String)
    (amount : RecorderId → ActionTotals) :
    MetricsTotals.actionTally name (∑ id ∈ ids, amount id)
      = ∑ id ∈ ids, MetricsTotals.actionTally name (amount id) := by
  induction hne using Finset.Nonempty.cons_induction with
  | singleton id => rw [Finset.sum_singleton, Finset.sum_singleton]
  | cons id rest hid hrest ih =>
    rw [Finset.sum_cons, Finset.sum_cons, ← ih]
    unfold MetricsTotals.actionTally
    rw [WithZero.coe_add, Pi.single_add]
    simp only [Prod.mk_add_mk, add_zero]

/-- Histograms are added up one by one. -/
theorem sum_histograms (ids : Finset RecorderId) (handshake rtt response : RecorderId → Histogram) :
    ∑ id ∈ ids, ((handshake id, rtt id, response id, 0, 0, 0, 0) : MetricsTotals.Tally)
      = (∑ id ∈ ids, handshake id, ∑ id ∈ ids, rtt id, ∑ id ∈ ids, response id, 0, 0, 0, 0) := by
  induction ids using Finset.cons_induction with
  | empty => rfl
  | cons id rest hid ih =>
    rw [Finset.sum_cons, ih, Finset.sum_cons, Finset.sum_cons, Finset.sum_cons]
    simp only [Prod.mk_add_mk, add_zero]

/-- A recorder that pools others adds what they add. -/
theorem Pools.recorderTally {ids : Finset RecorderId} {shared : LatencyRecorder}
    (h : Pools recorders ids shared) (hne : ids.Nonempty) :
    MetricsTotals.recorderTally shared
      = ∑ id ∈ ids, MetricsTotals.recorderTally (recorders id) := by
  have hactions : MetricsTotals.actionsTally shared.actionNames
        (MetricsTotals.recordedAction shared)
      = ∑ id ∈ ids, MetricsTotals.actionsTally (recorders id).actionNames
          (MetricsTotals.recordedAction (recorders id)) := by
    rw [Finset.sum_congr rfl fun id hid => by rw [h.names id hid]]
    unfold MetricsTotals.actionsTally
    induction shared.actionNames.zipIdx with
    | nil => simp
    | cons item rest ih =>
      simp only [List.map_cons, List.sum_cons]
      rw [ih, h.actions, actionTally_sum hne, Finset.sum_add_distrib]
  unfold MetricsTotals.recorderTally
  rw [Finset.sum_add_distrib, ← hactions, sum_histograms, ← h.handshake, ← h.rtt, ← h.response]

/-- **Distributed totals equal single-process totals.** For any workers,
partitioned into agents in any way (agents are separate processes, so their
workers share no recorder) and merged in any order: the coordinator decodes
every agent's totals, and what it adds up reports the same as adding all
workers, in any order, into one `MetricsTotals`; and the same again when
the one process kept a single recorder for every worker. -/
theorem mergeAgents_same_as_one_process (agents : List (List WorkerMetrics))
    (hapart : agents.Pairwise fun a b => Disjoint (recordersOf a) (recordersOf b))
    (all : List WorkerMetrics) (hall : all.Perm agents.flatten) :
    ∃ merged, mergeAgents recorders agents = .ok merged
      ∧ SameTotals merged (MetricsTotals.new.addWorkers recorders all)
      ∧ ∀ shared, Pools recorders (recordersOf all) (recorders shared) →
          SameTotals merged (MetricsTotals.new.addWorkers recorders
            (all.map fun w => { w with latency := shared })) := by
  obtain ⟨merged, hmerged, hsum⟩ := mergeAgents_eq_ok recorders agents
  have htally : merged.tally = (MetricsTotals.new.addWorkers recorders all).tally := by
    rw [hsum, sum_tally_addWorkers recorders hapart, tally_addWorkers_perm recorders hall]
  refine ⟨merged, hmerged, .of_tally htally, fun shared hpools => .of_tally ?_⟩
  rw [htally, tally_addWorkers_new, tally_addWorkers_new]
  rcases all.eq_nil_or_concat with rfl | ⟨_, _, hconcat⟩
  · rfl
  have hne : all ≠ [] := by rw [hconcat]; simp
  -- the counters are the same: only the names of the recorder matter to them
  have hworkers : (all.map fun w => MetricsTotals.workerTally (recorders w.latency).actionNames w)
      = (all.map fun w => { w with latency := shared }).map fun w =>
          MetricsTotals.workerTally (recorders w.latency).actionNames w := by
    rw [List.map_map]
    refine List.map_congr_left fun w hw => ?_
    show _ = MetricsTotals.workerTally (recorders shared).actionNames w
    rw [hpools.names w.latency (List.mem_toFinset.mpr (List.mem_map_of_mem hw))]
  -- the recorders are pooled in one
  have hrecorders : recordersOf (all.map fun w => { w with latency := shared }) = {shared} := by
    unfold recordersOf
    rw [List.map_map]
    show (all.map fun _ => shared).toFinset = {shared}
    rw [List.map_const', List.toFinset_replicate_of_ne_zero]
    rwa [Ne, List.length_eq_zero_iff]
  rw [← hworkers, hrecorders, Finset.sum_singleton]
  congr 1
  refine (hpools.recorderTally recorders ?_).symm
  obtain ⟨w, hw⟩ := List.exists_mem_of_ne_nil all hne
  exact ⟨w.latency, List.mem_toFinset.mpr (List.mem_map_of_mem hw)⟩

end Merge

/-- Two agents' recorders for the action `login`, and from 2 on the recorder
one process would have had for both. -/
def loginRecorders : RecorderId → LatencyRecorder
  | 0 => ((LatencyRecorder.withShards 2).withActions ["login"]).recordHandshake 0 1500
  | 1 => (((LatencyRecorder.withShards 1).withActions ["login"]).recordHandshake 0
      70000).recordActionRtt 0 0 900
  | _ => ((((LatencyRecorder.withShards 4).withActions ["login"]).recordHandshake 1
      1500).recordHandshake 3 70000).recordActionRtt 0 2 900

theorem pools_loginRecorders : Pools loginRecorders {0, 1} (loginRecorders 2) where
  names := by
    intro id hid
    rw [Finset.mem_insert, Finset.mem_singleton] at hid
    obtain rfl | rfl := hid <;> rfl
  handshake := by
    rw [Finset.sum_pair (by decide)]
    simp [loginRecorders, LatencyRecorder.recordHandshake, LatencyRecorder.recordActionRtt,
      LatencyRecorder.withActions, LatencyRecorder.withShards]
  rtt := by
    rw [Finset.sum_pair (by decide)]
    simp [loginRecorders, LatencyRecorder.recordHandshake, LatencyRecorder.recordActionRtt,
      LatencyRecorder.withActions, LatencyRecorder.withShards]
  response := by
    rw [Finset.sum_pair (by decide)]
    simp [loginRecorders, LatencyRecorder.recordHandshake, LatencyRecorder.recordActionRtt,
      LatencyRecorder.withActions, LatencyRecorder.withShards]
  actions := by
    intro index
    rw [Finset.sum_pair (by decide)]
    cases index with
    | zero =>
      -- the first agent sent no `login`
      have hzero : MetricsTotals.recordedAction (loginRecorders 0) 0 = 0 :=
        ActionTotals.ext (AtomicHistogram.counts_new 2) (AtomicHistogram.counts_new 2) rfl
      rw [hzero, zero_add]
      simp [MetricsTotals.recordedAction, loginRecorders, LatencyRecorder.recordHandshake,
        LatencyRecorder.recordActionRtt, LatencyRecorder.withActions,
        LatencyRecorder.withShards]
    | succ index => rfl

/-- Two workers on one agent, none on the second and one on the third,
against the three in one process with one recorder. -/
theorem mergeAgents_login :
    ∃ merged,
      mergeAgents loginRecorders
          [[{ latency := 0, messagesSent := 3 }, { latency := 0, reconnects := 1 }], [],
            [{ latency := 1, messagesSent := 2, actions := [⟨2, 1, 1⟩] }]]
        = .ok merged
      ∧ SameTotals merged (MetricsTotals.new.addWorkers loginRecorders
          [{ latency := 2, messagesSent := 2, actions := [⟨2, 1, 1⟩] },
            { latency := 2, messagesSent := 3 }, { latency := 2, reconnects := 1 }]) := by
  have hids : recordersOf
      [{ latency := 1, messagesSent := 2, actions := [⟨2, 1, 1⟩] },
        { latency := 0, messagesSent := 3 }, { latency := 0, reconnects := 1 }] = {0, 1} := by
    show ([1, 0, 0] : List RecorderId).toFinset = {0, 1}
    decide
  obtain ⟨merged, hok, -, hshared⟩ := mergeAgents_same_as_one_process loginRecorders
    [[{ latency := 0, messagesSent := 3 }, { latency := 0, reconnects := 1 }], [],
      [{ latency := 1, messagesSent := 2, actions := [⟨2, 1, 1⟩] }]]
    (by simp [recordersOf])
    ([{ latency := 1, messagesSent := 2, actions := [⟨2, 1, 1⟩] }]
      ++ [{ latency := 0, messagesSent := 3 }, { latency := 0, reconnects := 1 }])
    List.perm_append_comm
  exact ⟨merged, hok, hshared 2 (hids ▸ pools_loginRecorders)⟩

end WsBlast
