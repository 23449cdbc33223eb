import WsBlast.Lib.KeepLast
import WsBlast.Lib.Machine
import WsBlast.WatchedRun
import WsBlast.WireTotals

/-!
# The latency a coordinator shows while a phase runs

Every second an agent sends the histograms of the last two intervals that are
over on its clock (`recentIntervals`). The coordinator replaces what it had of
these intervals and keeps the four latest of each agent
(`FollowedAgent.deliver`); what it shows is the interval that was over a second
ago, merged over the agents (`FollowedCluster.mergedAt`).

No agent reports an interval before it is over, on a clock that started after
the coordinator's, so that at most one interval after the shown one has been
heard of, and four are always enough (`kept_of_heard`). What is shown is then
the sum of the last word of each agent about that interval, and no sample of
it was made up or counted twice (`shown_is_heard`).

Clocks of agents are not synchronised. An agent numbers its intervals from its
own start of the phase, which is later than the coordinator's by the time the
start message takes, so an interval of an agent is over no earlier than the
coordinator's of the same number.
-/

namespace WsBlast

/-! ## Agents and their reports

What is sent, what is kept, and the steps of the two sides. -/

/-- The histogram of an interval as an agent sends it. -/
structure WireInterval where
  index : ℕ
  values : Sparse
  deriving DecidableEq, Repr

/-- The latency histograms of the last two completed intervals of the run in
progress. -/
def recentIntervals (store : IntervalStore) (now : Instant) : List WireInterval :=
  let completed : ℕ := min ((now - store.start) / max store.interval 1) (2 ^ 64 - 1)
  (List.range' (completed - 2) (completed - (completed - 2))).filterMap fun index =>
    store.buckets[index]?.map fun hist => { index, values := toSparse hist }

/-- What an agent sends while the coordinator follows it. -/
inductive AgentReport where
  | snapshot (intervals : List WireInterval)
  | result
  deriving DecidableEq

/-- The histograms of a report that can be read. -/
def AgentReport.histograms : AgentReport → List (ℕ × IntervalHistogram)
  | .snapshot intervals => intervals.filterMap fun interval =>
    (fromSparse interval.values (0 : IntervalHistogram)).toOption.map (interval.index, ·)
  | .result => []

/-- Where an agent is with its part of a phase. -/
inductive AgentPhase where
  | waiting
  | running (store : IntervalStore)
  | ended (store : IntervalStore)

/-- The samples of the run. -/
def AgentPhase.store? : AgentPhase → Option IntervalStore
  | waiting => none
  | running store => some store
  | ended store => some store

/-- An agent, the connection to it and what the coordinator knows of it. -/
structure FollowedAgent where
  run : AgentPhase := .waiting
  /-- What the agent sent and the coordinator has yet to receive. -/
  link : List AgentReport := []
  /-- The connection is there. -/
  connected : Bool := true
  /-- The coordinator waits for the agent's result. -/
  following : Bool := false
  /-- The latency histograms of the phase's recent intervals, replaced by
  every snapshot. -/
  intervals : List (ℕ × IntervalHistogram) := []
  /-- All histograms received in this phase; nobody reads this. -/
  heard : List (ℕ × IntervalHistogram) := []

/-- Intervals the coordinator keeps of each agent. -/
def keptIntervals : ℕ := 4

namespace FollowedAgent

/-- Sends a report, while there is somebody to send it to. -/
def send (agent : FollowedAgent) (report : AgentReport) : FollowedAgent :=
  if agent.following then { agent with link := agent.link ++ [report] } else agent

/-- The coordinator receives the next report. -/
def deliver (agent : FollowedAgent) : Option FollowedAgent :=
  if agent.following then
    match agent.link with
    | [] => none
    | .snapshot intervals :: rest =>
      let histograms := AgentReport.histograms (.snapshot intervals)
      some
        { agent with
          link := rest
          intervals := OrderedMap.keepLast keptIntervals
            (OrderedMap.insertAll agent.intervals histograms)
          heard := agent.heard ++ histograms }
    | .result :: rest => some { agent with link := rest, following := false }
  else none

end FollowedAgent

/-- A coordinator and the agents of its cluster, while phases run. -/
structure FollowedCluster (n : ℕ) where
  now : Instant := 0
  /-- When the phase in progress started, and the length of its intervals. -/
  start : Instant := 0
  interval : Duration := intervalFor 0
  agents : Fin n → FollowedAgent := fun _ => {}

/-- What an agent, or the coordinator for it, does. -/
inductive AgentStep where
  /-- The agent hears the start of the phase. -/
  | start
  /-- A worker hands samples over. -/
  | absorb (bucket : ℕ) (samples : List ℕ)
  | snapshot
  /-- The run is over: the agent sends its result. -/
  | finish
  | deliver
  /-- The coordinator gives the agent up. -/
  | lose
  deriving DecidableEq

/-- What happens in a cluster. -/
inductive ClusterStep (n : ℕ) where
  | tick (elapsed : Duration)
  /-- A phase of some length begins. -/
  | begin (duration : Duration)
  | agent (i : Fin n) (step : AgentStep)
  deriving DecidableEq

/-- A step of one agent. -/
def FollowedAgent.step (now : Instant) (interval : Duration) (agent : FollowedAgent)
    (step : AgentStep) : Option FollowedAgent :=
  match step, agent.run with
  | .start, .waiting =>
    if agent.following then some { agent with run := .running (.new now interval) } else none
  | .absorb bucket samples, .running store =>
    some { agent with run := .running (store.absorbSamples bucket samples) }
  | .snapshot, .running store => some (agent.send (.snapshot (recentIntervals store now)))
  | .finish, .running store =>
    some (({ agent with run := .ended store }.send (.snapshot [])).send .result)
  | .deliver, _ => agent.deliver
  | .lose, _ =>
    if agent.following then
      some { agent with connected := false, following := false, link := [] }
    else none
  | _, _ => none

/-- Adds what is kept of one agent to what was merged so far. -/
def mergeHeld : Option IntervalHistogram → Option IntervalHistogram → Option IntervalHistogram
  | merged, none => merged
  | none, some hist => some hist
  | some sum, some hist => some (sum + hist)

namespace FollowedCluster

variable {n : ℕ}

/-- A phase begins on the agents that are still connected: what the
coordinator kept of the last one is forgotten. -/
def beginPhase (s : FollowedCluster n) (duration : Duration) : FollowedCluster n :=
  { s with
    start := s.now
    interval := intervalFor duration
    agents := fun i =>
      let agent := s.agents i
      { agent with
        run := if agent.connected then .waiting else agent.run
        following := agent.connected
        intervals := []
        heard := [] } }

/-- A step of the cluster. The next phase begins when the coordinator has the
results of all agents that it still follows. -/
def step (s : FollowedCluster n) : ClusterStep n → Option (FollowedCluster n)
  | .tick elapsed => some { s with now := s.now + elapsed }
  | .begin duration =>
    if ∀ i, (s.agents i).following = false then some (s.beginPhase duration) else none
  | .agent i step =>
    ((s.agents i).step s.now s.interval step).map fun agent =>
      { s with agents := Function.update s.agents i agent }

/-- The histogram of an interval merged over the agents that have one. -/
def mergedAt (s : FollowedCluster n) (bucket : ℕ) : Option IntervalHistogram :=
  (List.finRange n).foldl
    (fun merged i => mergeHeld merged (OrderedMap.lookup (s.agents i).intervals bucket)) none

/-- What `publishLive` publishes: the interval that ended a second ago. -/
def publishedLatency (s : FollowedCluster n) : Option (ℕ × IntervalLatency) :=
  (lastCompleted (s.now - s.start - exportLag) s.interval).map fun bucket =>
    (bucket, .fromHistogram (s.mergedAt bucket))

end FollowedCluster

/-! ## What a store has

Histograms grow as samples are handed in, interval by interval. -/

/-- A sample makes no count smaller. -/
theorem IntervalHistogram.le_record (hist : IntervalHistogram) (micros : ℕ) :
    hist ≤ hist.record micros := by
  unfold record Hdr.Hist.recordN
  split
  · exact le_self_add
  · exact le_rfl

theorem IntervalHistogram.le_records (hist : IntervalHistogram) (samples : List ℕ) :
    hist ≤ samples.foldl record hist := by
  induction samples generalizing hist with
  | nil => exact le_rfl
  | cons micros rest ih => exact (hist.le_record micros).trans (ih _)

/-- No interval of a store is smaller in another. -/
def IntervalStore.Within (store grown : IntervalStore) : Prop :=
  ∀ (index : ℕ) (hist : IntervalHistogram), store.buckets[index]? = some hist →
    ∃ more, grown.buckets[index]? = some more ∧ hist ≤ more

theorem IntervalStore.Within.refl (store : IntervalStore) : store.Within store :=
  fun _ hist h => ⟨hist, h, le_rfl⟩

/-- Samples that come later make no interval smaller. -/
theorem IntervalStore.within_absorbSamples (store : IntervalStore) (bucket : ℕ)
    (samples : List ℕ) : store.Within (store.absorbSamples bucket samples) := by
  intro index hist h
  show ∃ grown, (store.buckets.alter bucket _)[index]? = some grown ∧ hist ≤ grown
  by_cases hbucket : bucket = index
  · subst hbucket
    rw [Std.ExtTreeMap.getElem?_alter_self, h]
    exact ⟨_, rfl, hist.le_records samples⟩
  · rw [Std.ExtTreeMap.getElem?_alter, if_neg (by simpa using hbucket)]
    exact ⟨hist, h, le_rfl⟩

/-- **What is read from a snapshot**: intervals of the store that are over. -/
theorem mem_histograms_recentIntervals {store : IntervalStore} {now : Instant}
    {entry : ℕ × IntervalHistogram}
    (h : entry ∈ (AgentReport.snapshot (recentIntervals store now)).histograms) :
    store.buckets[entry.1]? = some entry.2
      ∧ (entry.1 + 1) * store.interval ≤ now - store.start := by
  obtain ⟨interval, hinterval, hread⟩ := List.mem_filterMap.mp h
  obtain ⟨index, hindex, hheld⟩ := List.mem_filterMap.mp hinterval
  obtain ⟨hist, hhist, rfl⟩ := Option.map_eq_some_iff.mp hheld
  have hback : fromSparse (toSparse hist) (0 : IntervalHistogram) = .ok hist :=
    fromSparse_toSparse hist
  simp only [hback] at hread
  obtain rfl := Option.some.inj hread
  refine ⟨hhist, ?_⟩
  have hlt : index + 1 ≤ (now - store.start) / max store.interval 1 := by
    have hrange := (List.mem_range'_1.mp hindex).2
    omega
  calc (index + 1) * store.interval
      ≤ (now - store.start) / max store.interval 1 * max store.interval 1 :=
        Nat.mul_le_mul hlt (le_max_left _ _)
    _ ≤ now - store.start := Nat.div_mul_le_self _ _

/-- The intervals of one snapshot are all different. -/
theorem pairwise_recentIntervals (store : IntervalStore) (now : Instant) :
    (AgentReport.snapshot (recentIntervals store now)).histograms.Pairwise
      fun a b => a.1 = b.1 → a.2 ≤ b.2 := by
  refine List.Pairwise.imp_of_mem (fun {a b} ha hb _ heq => ?_)
    (List.pairwise_of_forall (R := fun _ _ => True) fun _ _ => trivial)
  have hheld := (mem_histograms_recentIntervals ha).1
  rw [heq, (mem_histograms_recentIntervals hb).1] at hheld
  exact (Option.some.inj hheld).ge

/-! ## What is known of an agent

Four facts about a followed agent, kept by every step: reports are part of what
was recorded, the later ones of an interval are no smaller, none is about an
interval that is not over, and what is kept is what was heard last. -/

namespace FollowedAgent

/-- The histograms of this phase that were received or are on their way. -/
def said (agent : FollowedAgent) : List (ℕ × IntervalHistogram) :=
  agent.heard ++ agent.link.flatMap AgentReport.histograms

/-- The last histogram of an interval that the coordinator received in this
phase. -/
def lastHeard (agent : FollowedAgent) (bucket : ℕ) : Option IntervalHistogram :=
  (agent.heard.filter fun entry => entry.1 = bucket).getLast?.map Prod.snd

/-- What the agent has recorded for an interval. -/
def recordedAt (agent : FollowedAgent) (bucket : ℕ) : Option IntervalHistogram :=
  agent.run.store?.bind (·.buckets[bucket]?)

/-- A histogram is part of an interval that is over. -/
def Recorded (agent : FollowedAgent) (elapsed interval : Duration)
    (entry : ℕ × IntervalHistogram) : Prop :=
  (entry.1 + 1) * interval ≤ elapsed
    ∧ ∃ store ∈ agent.run.store?, ∃ hist, store.buckets[entry.1]? = some hist ∧ entry.2 ≤ hist

/-- What the coordinator has of an agent, and what is on its way. -/
structure Sound (now start : Instant) (interval : Duration) (agent : FollowedAgent) : Prop where
  started : start ≤ now
  there : agent.following = true → agent.connected = true
  idle : agent.following = false → agent.link = []
  /-- The result is the last thing the agent sends in a phase. -/
  last : ∀ report ∈ agent.link.dropLast, report ≠ .result
  ended : .result ∈ agent.link → ∃ store, agent.run = .ended store
  clock : agent.connected = true → ∀ store ∈ agent.run.store?,
    store.interval = interval ∧ start ≤ store.start
  kept : agent.intervals
    = OrderedMap.keepLast keptIntervals (OrderedMap.insertAll [] agent.heard)
  recorded : ∀ entry ∈ agent.said, agent.Recorded (now - start) interval entry
  /-- What an agent says of an interval later is no less. -/
  ordered : agent.said.Pairwise fun a b => a.1 = b.1 → a.2 ≤ b.2

variable {now start : Instant} {interval : Duration} {agent agent' : FollowedAgent}
  {store : IntervalStore} {report : AgentReport}

namespace Sound

/-- An agent that nothing is known of in this phase. -/
theorem fresh (hstart : start ≤ now) (hthere : agent.following = true → agent.connected = true)
    (hlink : agent.link = []) (hrun : agent.connected = true → agent.run = .waiting)
    (hintervals : agent.intervals = []) (hheard : agent.heard = []) :
    Sound now start interval agent := by
  have hsaid : agent.said = [] := by
    unfold said
    rw [hheard, hlink]
    rfl
  refine ⟨hstart, hthere, fun _ => hlink, ?_, ?_, fun hconnected store hstore => ?_, ?_, ?_, ?_⟩
  · rw [hlink]
    exact fun report h => absurd h List.not_mem_nil
  · rw [hlink]
    exact fun h => absurd h List.not_mem_nil
  · rw [hrun hconnected] at hstore
    cases hstore
  · rw [hintervals, hheard]
    rfl
  · rw [hsaid]
    exact fun entry h => absurd h List.not_mem_nil
  · rw [hsaid]
    exact List.Pairwise.nil

theorem tick (h : Sound now start interval agent) (elapsed : Duration) :
    Sound (now + elapsed) start interval agent where
  started := h.started.trans (Nat.le_add_right _ _)
  there := h.there
  idle := h.idle
  last := h.last
  ended := h.ended
  clock := h.clock
  kept := h.kept
  recorded entry hentry := by
    obtain ⟨hover, hheld⟩ := h.recorded entry hentry
    exact ⟨hover.trans (Nat.sub_le_sub_right (Nat.le_add_right _ _) _), hheld⟩
  ordered := h.ordered

/-- The run of the agent goes on: its store is a new one, or grows. -/
theorem rerun (h : Sound now start interval agent) {run : AgentPhase}
    (hended : .result ∈ agent.link → ∃ store, run = .ended store)
    (hclock : agent.connected = true → ∀ store ∈ run.store?,
      store.interval = interval ∧ start ≤ store.start)
    (hgrown : ∀ store ∈ agent.run.store?, ∃ grown ∈ run.store?, store.Within grown) :
    Sound now start interval { agent with run } where
  started := h.started
  there := h.there
  idle := h.idle
  last := h.last
  ended := hended
  clock := hclock
  kept := h.kept
  recorded entry hentry := by
    obtain ⟨hover, store, hstore, hist, hheld, hle⟩ := h.recorded entry hentry
    obtain ⟨grown, hmem, hwithin⟩ := hgrown store hstore
    obtain ⟨more, hmore, hle'⟩ := hwithin entry.1 hist hheld
    exact ⟨hover, grown, hmem, more, hmore, hle.trans hle'⟩
  ordered := h.ordered

/-- A report of nothing, or of what the store has of intervals that are over. -/
theorem send (h : Sound now start interval agent) (hopen : .result ∉ agent.link)
    (hended : report = .result → ∃ store, agent.run = .ended store)
    (hrecorded : agent.connected = true → ∀ entry ∈ report.histograms,
      (entry.1 + 1) * interval ≤ now - start
        ∧ ∃ store ∈ agent.run.store?, store.buckets[entry.1]? = some entry.2)
    (hordered : report.histograms.Pairwise fun a b => a.1 = b.1 → a.2 ≤ b.2) :
    Sound now start interval (agent.send report) := by
  unfold FollowedAgent.send
  split_ifs with hfollowing
  swap
  · exact h
  have hnew := hrecorded (h.there hfollowing)
  have hsaid : said { agent with link := agent.link ++ [report] }
      = agent.said ++ report.histograms := by
    unfold said
    rw [List.flatMap_append, List.flatMap_singleton, List.append_assoc]
  refine ⟨h.started, h.there, fun hidle => ?_, ?_, fun hresult => ?_, h.clock, h.kept,
    fun entry hentry => ?_, ?_⟩
  · rw [hfollowing] at hidle
    cases hidle
  · rw [List.dropLast_concat]
    exact fun old hold heq => hopen (heq ▸ hold)
  · rcases List.mem_append.mp hresult with hold | hlast
    · exact absurd hold hopen
    · exact hended (List.mem_singleton.mp hlast).symm
  · rw [hsaid] at hentry
    rcases List.mem_append.mp hentry with hold | hentry
    · exact h.recorded entry hold
    · obtain ⟨hover, store, hstore, hheld⟩ := hnew entry hentry
      exact ⟨hover, store, hstore, entry.2, hheld, le_rfl⟩
  · rw [hsaid]
    refine List.pairwise_append.mpr ⟨h.ordered, hordered, fun old hold entry hentry heq => ?_⟩
    obtain ⟨-, store, hstore, hist, hhist, hle⟩ := h.recorded old hold
    obtain ⟨-, store', hstore', hheld⟩ := hnew entry hentry
    obtain rfl := Option.some.inj (hstore.symm.trans hstore')
    rw [heq, hheld] at hhist
    obtain rfl := Option.some.inj hhist
    exact hle

/-- An agent whose run is not over has not sent the result. -/
theorem open_of_running (h : Sound now start interval agent) (hrun : agent.run = .running store) :
    .result ∉ agent.link := fun hresult => by
  obtain ⟨store', hover⟩ := h.ended hresult
  rw [hrun] at hover
  cases hover

theorem snapshot (h : Sound now start interval agent) (hrun : agent.run = .running store) :
    Sound now start interval (agent.send (.snapshot (recentIntervals store now))) := by
  refine h.send (h.open_of_running hrun) nofun (fun hconnected entry hentry => ?_)
    (pairwise_recentIntervals store now)
  obtain ⟨hheld, hover⟩ := mem_histograms_recentIntervals hentry
  have hstore : store ∈ agent.run.store? := by
    rw [hrun]
    rfl
  obtain ⟨hinterval, hstart⟩ := h.clock hconnected store hstore
  rw [hinterval] at hover
  exact ⟨hover.trans (Nat.sub_le_sub_left hstart now), store, hstore, hheld⟩

/-- The run is over. -/
theorem finish (h : Sound now start interval agent) (hrun : agent.run = .running store) :
    Sound now start interval
      (({ agent with run := .ended store }.send (.snapshot [])).send .result) := by
  have hopen := h.open_of_running hrun
  have hover : Sound now start interval { agent with run := .ended store } := by
    refine h.rerun (fun _ => ⟨store, rfl⟩) ?_ ?_
    · have hclock := h.clock
      rw [hrun] at hclock
      exact hclock
    · rw [hrun]
      exact fun store hstore => ⟨store, hstore, .refl store⟩
  have hempty : Sound now start interval
      ({ agent with run := .ended store }.send (.snapshot [])) :=
    hover.send hopen nofun (fun _ _ hentry => absurd hentry List.not_mem_nil) .nil
  refine hempty.send ?_ (fun _ => ?_) (fun _ _ hentry => absurd hentry List.not_mem_nil) .nil
  · unfold FollowedAgent.send
    split_ifs
    · simpa using hopen
    · exact hopen
  · unfold FollowedAgent.send
    split_ifs
    · exact ⟨store, rfl⟩
    · exact ⟨store, rfl⟩

theorem deliver (h : Sound now start interval agent) (hdeliver : agent.deliver = some agent') :
    Sound now start interval agent' := by
  unfold FollowedAgent.deliver at hdeliver
  split_ifs at hdeliver with hfollowing
  have hlast := h.last
  have hended := h.ended
  split at hdeliver
  · cases hdeliver
  · rename_i intervals rest hlink
    obtain rfl := Option.some.inj hdeliver
    have hsaid : agent.heard ++ (AgentReport.snapshot intervals).histograms
        ++ rest.flatMap AgentReport.histograms = agent.said := by
      unfold said
      rw [hlink, List.flatMap_cons, List.append_assoc]
    rw [hlink] at hlast hended
    refine ⟨h.started, h.there, fun hidle => ?_, fun report hreport => hlast report ?_,
      fun hresult => hended (List.mem_cons_of_mem _ hresult), h.clock, ?_, ?_, ?_⟩
    · rw [hfollowing] at hidle
      cases hidle
    · rw [List.dropLast_cons_of_ne_nil (List.ne_nil_of_mem (List.mem_of_mem_dropLast hreport))]
      exact List.mem_cons_of_mem _ hreport
    · show OrderedMap.keepLast _ (OrderedMap.insertAll agent.intervals _) = _
      rw [h.kept, OrderedMap.keepLast_insertAll (OrderedMap.sorted_insertAll .nil _)]
      unfold OrderedMap.insertAll
      rw [← List.foldl_append]
    · show ∀ entry ∈ agent.heard ++ (AgentReport.snapshot intervals).histograms
        ++ rest.flatMap AgentReport.histograms, _
      rw [hsaid]
      exact h.recorded
    · show (agent.heard ++ (AgentReport.snapshot intervals).histograms
        ++ rest.flatMap AgentReport.histograms).Pairwise _
      rw [hsaid]
      exact h.ordered
  · rename_i rest hlink
    obtain rfl := Option.some.inj hdeliver
    -- the result is the last report, so that nothing is left behind it
    have hrest : rest = [] := by
      by_contra hne
      rw [hlink, List.dropLast_cons_of_ne_nil hne] at hlast
      exact hlast _ List.mem_cons_self rfl
    subst hrest
    have hsaid : agent.heard ++ [] = agent.said := by
      unfold said
      rw [hlink]
      rfl
    refine ⟨h.started, nofun, fun _ => rfl, nofun, nofun, h.clock, h.kept, ?_, ?_⟩
    · show ∀ entry ∈ agent.heard ++ [], _
      rw [hsaid]
      exact h.recorded
    · show (agent.heard ++ []).Pairwise _
      rw [hsaid]
      exact h.ordered

/-- The coordinator gives the agent up: what it had is what it has. -/
theorem lose (h : Sound now start interval agent) :
    Sound now start interval
      { agent with connected := false, following := false, link := [] } where
  started := h.started
  there := nofun
  idle _ := rfl
  last := nofun
  ended := nofun
  clock := nofun
  kept := h.kept
  recorded entry hentry := h.recorded entry <| by
    unfold said at hentry ⊢
    exact List.mem_append_left _ (by simpa using hentry)
  ordered := by
    have hordered := h.ordered
    unfold said at hordered ⊢
    exact hordered.sublist ((List.Sublist.refl agent.heard).append (List.nil_sublist _))

/-- **Every step** of an agent keeps what is known of it. -/
theorem step (h : Sound now start interval agent) {step : AgentStep}
    (hstep : agent.step now interval step = some agent') : Sound now start interval agent' := by
  unfold FollowedAgent.step at hstep
  split at hstep
  · rename_i hrun
    split_ifs at hstep with hfollowing
    obtain rfl := Option.some.inj hstep
    refine h.rerun (fun hresult => ?_) (fun _ store hstore => ?_) ?_
    · obtain ⟨store, hended⟩ := h.ended hresult
      rw [hrun] at hended
      cases hended
    · obtain rfl := Option.some.inj hstore
      exact ⟨rfl, h.started⟩
    · rw [hrun]
      exact fun store hstore => absurd hstore (Option.not_mem_none store)
  · rename_i bucket samples store hrun
    obtain rfl := Option.some.inj hstep
    refine h.rerun (fun hresult => absurd hresult (h.open_of_running hrun)) ?_ ?_
    · intro hconnected grown hgrown
      obtain rfl := Option.some.inj hgrown
      exact h.clock hconnected store (by rw [hrun]; rfl)
    · rw [hrun]
      intro before hbefore
      obtain rfl := Option.some.inj hbefore
      exact ⟨_, rfl, store.within_absorbSamples bucket samples⟩
  · rename_i store hrun
    obtain rfl := Option.some.inj hstep
    exact h.snapshot hrun
  · rename_i store hrun
    obtain rfl := Option.some.inj hstep
    exact h.finish hrun
  · exact h.deliver hstep
  · split_ifs at hstep
    obtain rfl := Option.some.inj hstep
    exact h.lose
  · cases hstep

/-- What the coordinator keeps of an interval is the agent's last word on it,
and part of what the agent recorded. -/
theorem kept_of_heard (h : Sound now start interval agent) (hinterval : exportLag ≤ interval)
    {bucket : ℕ} (hbucket : now - start < (bucket + 2) * interval + exportLag) :
    OrderedMap.lookup agent.intervals bucket
      = OrderedMap.lookup (OrderedMap.insertAll [] agent.heard) bucket := by
  have hsorted := OrderedMap.sorted_insertAll (m := []) .nil agent.heard
  rw [h.kept]
  -- no later interval than the next one is over on the agent's clock
  have hkeys : ∀ entry ∈ OrderedMap.insertAll [] agent.heard,
      bucket < entry.1 → entry.1 ∈ ({bucket + 1} : Finset ℕ) := by
    intro entry hentry hlt
    have hheard := OrderedMap.mem_of_lookup_insertAll
      ((OrderedMap.mem_iff_lookup hsorted entry.1 entry.2).mp hentry)
    have hover := (h.recorded entry (List.mem_append_left _ hheard)).1
    have hle : (entry.1 + 1) * interval < (bucket + 3) * interval := by
      calc (entry.1 + 1) * interval ≤ now - start := hover
        _ < (bucket + 2) * interval + exportLag := hbucket
        _ ≤ (bucket + 2) * interval + interval := Nat.add_le_add_left hinterval _
        _ = (bucket + 3) * interval := by ring
    have hindex := lt_of_mul_lt_mul_right hle (Nat.zero_le _)
    exact Finset.mem_singleton.mpr (by omega)
  refine OrderedMap.lookup_keepLast hsorted ?_
  calc _ ≤ ({bucket + 1} : Finset ℕ).card := OrderedMap.countP_lt_of_keys hsorted hkeys
    _ < keptIntervals := by
      rw [Finset.card_singleton]
      decide

/-- What the coordinator has of an interval is the last the agent said of it,
which is no less than anything it said before. -/
theorem lookup_heard (h : Sound now start interval agent) (bucket : ℕ) :
    (∀ hist, (bucket, hist) ∈ agent.heard →
      hist ≤ (OrderedMap.lookup (OrderedMap.insertAll [] agent.heard) bucket).getD 0)
    ∧ ∀ hist, OrderedMap.lookup (OrderedMap.insertAll [] agent.heard) bucket = some hist →
      (bucket, hist) ∈ agent.heard := by
  refine ⟨fun hist hheard => ?_, fun hist hlookup => OrderedMap.mem_of_lookup_insertAll hlookup⟩
  have hordered : (agent.heard.filter fun entry => entry.1 = bucket).Pairwise
      fun a b => a.1 = b.1 → a.2 ≤ b.2 :=
    h.ordered.sublist (List.filter_sublist.trans (List.sublist_append_left _ _))
  have hmem : (bucket, hist) ∈ agent.heard.filter fun entry => entry.1 = bucket :=
    List.mem_filter.mpr ⟨hheard, decide_eq_true rfl⟩
  rw [OrderedMap.lookup_insertAll]
  generalize hentries : (agent.heard.filter fun entry => entry.1 = bucket) = entries
    at hordered hmem
  rcases List.eq_nil_or_concat entries with rfl | ⟨before, last, rfl⟩
  · exact absurd hmem List.not_mem_nil
  rw [List.concat_eq_append, List.getLast?_concat]
  show hist ≤ last.2
  have hlast : last.1 = bucket := by
    have hin : last ∈ agent.heard.filter fun entry => entry.1 = bucket := by
      rw [hentries]
      simp
    exact of_decide_eq_true (List.mem_filter.mp hin).2
  rw [List.concat_eq_append] at hmem hordered
  rcases List.mem_append.mp hmem with hbefore | hsame
  · exact (List.pairwise_append.mp hordered).2.2 _ hbefore last List.mem_cons_self hlast.symm
  · rw [← List.mem_singleton.mp hsame]

end Sound

end FollowedAgent

/-! ## What is shown

The intervals that are kept include the one that is shown, of every agent that
reported it. -/

/-- What is merged is the sum of what is kept. -/
theorem foldl_mergeHeld {ι : Type} (held : ι → Option IntervalHistogram) (l : List ι)
    (merged : Option IntervalHistogram) :
    (l.foldl (fun merged i => mergeHeld merged (held i)) merged).getD 0
      = merged.getD 0 + (l.map fun i => (held i).getD 0).sum := by
  induction l generalizing merged with
  | nil => simp
  | cons i rest ih =>
    have hstep : (mergeHeld merged (held i)).getD 0 = merged.getD 0 + (held i).getD 0 := by
      cases merged <;> cases held i <;> simp [mergeHeld]
    rw [List.foldl_cons, ih, hstep, List.map_cons, List.sum_cons, add_assoc]

/-- No histogram shows as an empty one. -/
theorem IntervalLatency.fromHistogram_getD {L : Hdr.Layout} (hist : Option (Hdr.Hist L)) :
    fromHistogram hist = fromHistogram (some (hist.getD 0)) := by
  cases hist with
  | none => simp [fromHistogram]
  | some hist => rfl

theorem exportLag_le_intervalFor (duration : Duration) : exportLag ≤ intervalFor duration := by
  show 1 * 10 ^ 9 ≤ max _ 1 * 10 ^ 9
  exact Nat.mul_le_mul_right _ (le_max_right _ _)

namespace FollowedCluster

variable {n : ℕ} {s t : FollowedCluster n} {action : ClusterStep n}
  {actions : List (ClusterStep n)}

/-- The invariant of a cluster. -/
structure Followed (s : FollowedCluster n) : Prop where
  started : s.start ≤ s.now
  interval : exportLag ≤ s.interval
  agents : ∀ i, (s.agents i).Sound s.now s.start s.interval

theorem Followed.init : Followed ({} : FollowedCluster n) where
  started := le_rfl
  interval := exportLag_le_intervalFor 0
  agents _ := .fresh le_rfl nofun rfl (fun _ => rfl) rfl rfl

/-- **Every step** of a cluster keeps what is known of its agents. -/
theorem Followed.step (h : Followed s) (hstep : s.step action = some t) : Followed t := by
  cases action with
  | tick elapsed =>
    obtain rfl := Option.some.inj hstep
    exact ⟨h.started.trans (Nat.le_add_right _ _), h.interval, fun i => (h.agents i).tick elapsed⟩
  | begin duration =>
    simp only [FollowedCluster.step] at hstep
    split_ifs at hstep with hidle
    obtain rfl := Option.some.inj hstep
    refine ⟨le_rfl, exportLag_le_intervalFor duration, fun i => ?_⟩
    exact .fresh le_rfl id ((h.agents i).idle (hidle i)) (fun hconnected => if_pos hconnected)
      rfl rfl
  | agent i step =>
    obtain ⟨agent, hagent, rfl⟩ := Option.map_eq_some_iff.mp hstep
    refine ⟨h.started, h.interval, ?_⟩
    exact (Function.forall_update_iff s.agents
      fun _ agent => agent.Sound s.now s.start s.interval).mpr
        ⟨(h.agents i).step hagent, fun j _ => h.agents j⟩

/-- **The latency a coordinator shows is what its agents reported.** Whatever
is started, sent, received and lost in which order: the interval shown ended
at least a second ago, and its latency is that of a sum with one part for each
agent. The part of an agent is the last the coordinator heard from it about
this interval in this phase (nothing that the four kept intervals could have
dropped), no less than anything it heard before, and no more than what the
agent has recorded for the interval. -/
theorem shown_is_heard (hrun : Machine.run step ({} : FollowedCluster n) actions = some s)
    {bucket : ℕ} {latency : IntervalLatency}
    (h : s.publishedLatency = some (bucket, latency)) :
    (bucket + 1) * s.interval + exportLag ≤ s.now - s.start
      ∧ latency = .fromHistogram (some (∑ i, ((s.agents i).lastHeard bucket).getD 0))
      ∧ ∀ i, (∀ hist, (bucket, hist) ∈ (s.agents i).heard →
          hist ≤ ((s.agents i).lastHeard bucket).getD 0)
        ∧ ((s.agents i).lastHeard bucket).getD 0 ≤ ((s.agents i).recordedAt bucket).getD 0 := by
  have hfollowed : Followed s := Machine.run_inv (fun h hstep => h.step hstep) .init hrun
  obtain ⟨index, hindex, hshown⟩ := Option.map_eq_some_iff.mp h
  obtain ⟨rfl, rfl⟩ := Prod.mk.inj hshown
  have hpos : 0 < s.interval := lt_of_lt_of_le (by decide) hfollowed.interval
  obtain ⟨hover, hnext⟩ := lastCompleted_eq_some hpos hindex
  have hproduct : 0 < (index + 1) * s.interval := Nat.mul_pos (Nat.succ_pos _) hpos
  have hlag : exportLag ≤ s.now - s.start := by
    by_contra hshort
    rw [Nat.sub_eq_zero_of_le (Nat.le_of_not_le hshort)] at hover
    exact absurd (hproduct.trans_le hover) (Nat.lt_irrefl 0)
  -- what is kept of the interval that is shown is the last that was heard of it
  have hkept (i : Fin n) :
      OrderedMap.lookup (s.agents i).intervals index = (s.agents i).lastHeard index := by
    rw [(hfollowed.agents i).kept_of_heard hfollowed.interval
      ((Nat.sub_lt_iff_lt_add hlag).mp hnext)]
    exact OrderedMap.lookup_insertAll (s.agents i).heard index
  refine ⟨(Nat.le_sub_iff_add_le hlag).mp hover, ?_, fun i => ?_⟩
  · rw [IntervalLatency.fromHistogram_getD]
    unfold mergedAt
    rw [foldl_mergeHeld, Option.getD_none, zero_add, Fin.sum_univ_def]
    simp only [hkept]
  · have hagent := hfollowed.agents i
    obtain ⟨hleast, hmem⟩ := hagent.lookup_heard index
    rw [OrderedMap.lookup_insertAll] at hleast hmem
    refine ⟨hleast, ?_⟩
    cases hlast : (s.agents i).lastHeard index with
    | none => exact fun _ => Nat.zero_le _
    | some hist =>
      obtain ⟨-, store, hstore, held, hheld, hle⟩ :=
        hagent.recorded _ (List.mem_append_left _ (hmem hist hlast))
      unfold FollowedAgent.recordedAt
      rw [Option.mem_def.mp hstore, Option.bind_some, hheld]
      exact hle

/-- Two agents report the first second of a phase, one of them once more after
a worker has handed over a late sample. A second later it is shown. -/
def firstSecond (early late : Fin 2) : List (ClusterStep 2) :=
  [.begin (.ofSecs 60), .agent early .start, .agent late .start, .agent early (.absorb 0 [250]),
    .agent late (.absorb 0 [300, 310]), .tick (.ofSecs 1), .agent early .snapshot,
    .agent late .snapshot, .agent late .deliver, .agent early .deliver,
    .agent early (.absorb 0 [260]), .agent early .snapshot, .tick (.ofSecs 1),
    .agent early .deliver]

theorem shown_is_heard_firstSecond :
    ∃ s latency, Machine.run step {} (firstSecond 0 1) = some s
      ∧ s.publishedLatency = some (0, latency)
      ∧ (∀ i, (s.agents i).heard.length = if i = 0 then 2 else 1)
      ∧ latency = .fromHistogram (some (∑ i, ((s.agents i).lastHeard 0).getD 0))
      ∧ ∀ i, ((s.agents i).lastHeard 0).getD 0 ≤ ((s.agents i).recordedAt 0).getD 0 := by
  obtain ⟨s, hrun, hnow, hstart, hinterval, hheard⟩ :
      ∃ s, Machine.run step {} (firstSecond 0 1) = some s ∧ s.now = Duration.ofSecs 2 ∧ s.start = 0
        ∧ s.interval = .ofSecs 1 ∧ ∀ i, (s.agents i).heard.length = if i = 0 then 2 else 1 :=
    ⟨_, rfl, rfl, rfl, by decide, by decide +kernel⟩
  have hshown : s.publishedLatency = some (0, .fromHistogram (s.mergedAt 0)) := by
    have hindex : lastCompleted (.ofSecs 2 - 0 - exportLag) (.ofSecs 1) = some 0 := by decide
    unfold publishedLatency
    rw [hnow, hstart, hinterval, hindex]
    rfl
  obtain ⟨-, hlatency, hparts⟩ := shown_is_heard hrun hshown
  exact ⟨s, _, hrun, hshown, hheard, hlatency, fun i => (hparts i).2⟩

end FollowedCluster

end WsBlast
