import WsBlast.Comparison

/-!
# The verdicts of a comparison

The loop of `compareMetricsIn` goes over the names of two maps in order. At
the name of a metric it files the metric's entry, or skips the metric when
it cannot be scored (`scoreMetric_name`), so a comparison lists the entries
of the scored metrics in name order and its regressions and improvements
are the entries with that outcome (`compareMetricsIn_eq`). What the
documentation promises of the verdicts is read off the entries
(`Consistent`).

The promises are those of the documentation. A metric is a regression when it
moves in its worse direction by more than the threshold, an improvement when
it moves as far in the better one, and otherwise within the threshold.
Latencies and errors are better when they are lower and throughput when it is
higher. Every list is in the order of the names.
-/

namespace WsBlast

/-! ## One metric

What one pass of the loop does at the name of a metric. -/

namespace Metric

/-- How far a relative change moves a metric in its worse direction. -/
def worsening (metric : Metric) (change : ℚ) : ℚ :=
  match metric.direction with
  | .higherIsBetter => -change
  | .lowerIsBetter => change
  | .neutral => 0

/-- Whether a comparison scores a metric with these values in the two
reports: it is an outcome, both reports define it where it is optional, and
it is not 0 in both. -/
def Scored (metric : Metric) (baseline current : Option ℚ) : Prop :=
  metric.direction ≠ .neutral
    ∧ (metric.isOptional = true → baseline.isSome = true ∧ current.isSome = true)
    ∧ ¬(baseline.getD 0 = 0 ∧ current.getD 0 = 0)

instance (metric : Metric) (baseline current : Option ℚ) :
    Decidable (metric.Scored baseline current) :=
  inferInstanceAs (Decidable (_ ∧ (_ → _) ∧ ¬_))

/-- What a relative change is to a metric. -/
def outcome (metric : Metric) (threshold change : ℚ) : ChangeOutcome :=
  if threshold < metric.worsening change then .regression
  else if threshold < -metric.worsening change then .improvement
  else .withinThreshold

/-- The entry of a scored metric. -/
def entry (metric : Metric) (threshold baseline current : ℚ) : ComparedMetric where
  metric := metric.name
  baseline
  current
  pctChange := pctChange baseline current
  higherIsBetter := metric.direction = .higherIsBetter
  outcome := metric.outcome threshold (pctChange baseline current)

/-- The prefixes of the names say which metrics are optional. -/
theorem startsWith_name (metric : Metric) :
    (metric.name.startsWith "response_time." || metric.name.startsWith seriesPrefix)
      = metric.isOptional := by
  have hall : ∀ metric ∈ all,
      (metric.name.startsWith "response_time." || metric.name.startsWith seriesPrefix)
        = metric.isOptional := by
    decide +kernel
  exact hall metric metric.mem_all

end Metric

/-- An entry as the list of regressions shows it. -/
def ComparedMetric.toRegression (entry : ComparedMetric) : Regression :=
  ⟨entry.metric, entry.baseline, entry.current, entry.pctChange⟩

/-- An entry as the list of improvements shows it. -/
def ComparedMetric.toImprovement (entry : ComparedMetric) : Improvement :=
  ⟨entry.metric, entry.baseline, entry.current, entry.pctChange⟩

/-- The lists of a comparison with some entries. -/
def Verdicts.of (entries : List ComparedMetric) : Verdicts where
  regressions := (entries.filter (·.outcome = .regression)).map (·.toRegression)
  improvements := (entries.filter (·.outcome = .improvement)).map (·.toImprovement)
  compared := entries

section Score

variable {baselineMap currentMap : MetricMap} {baseline current : Metric → Option ℚ}
  {threshold : ℚ}

/-- **One pass of the loop** files the entry of a scored metric, and skips
any other. -/
theorem scoreMetric_name (hbaseline : NamedTree.Tabulates Metric.name baseline baselineMap)
    (hcurrent : NamedTree.Tabulates Metric.name current currentMap)
    (entries : List ComparedMetric) (metric : Metric) :
    scoreMetric baselineMap currentMap threshold (.of entries) metric.name
      = .of (entries ++ if metric.Scored (baseline metric) (current metric) then
          [metric.entry threshold ((baseline metric).getD 0) ((current metric).getD 0)]
        else []) := by
  have hcontains : (!(baselineMap.contains metric.name && currentMap.contains metric.name))
      = !((baseline metric).isSome && (current metric).isSome) := by
    rw [Std.ExtTreeMap.contains_eq_isSome_getElem?, Std.ExtTreeMap.contains_eq_isSome_getElem?,
      hbaseline.at_name, hcurrent.at_name]
  unfold scoreMetric
  rw [hcontains, metric.startsWith_name, metric.metricDirection_name, hbaseline.at_name,
    hcurrent.at_name]
  dsimp only
  by_cases hneutral : metric.direction = .neutral
  · rw [if_pos hneutral, if_neg fun h => h.1 hneutral, List.append_nil]
  rw [if_neg hneutral]
  by_cases hmissing : (metric.isOptional
      && !((baseline metric).isSome && (current metric).isSome)) = true
  · have hskip : ¬metric.Scored (baseline metric) (current metric) := by
      intro h
      rw [Bool.and_eq_true] at hmissing
      obtain ⟨hb, hc⟩ := h.2.1 hmissing.1
      rw [hb, hc] at hmissing
      exact Bool.false_ne_true hmissing.2
    rw [if_pos hmissing, if_neg hskip, List.append_nil]
  rw [if_neg hmissing]
  by_cases hzero : (baseline metric).getD 0 = 0 ∧ (current metric).getD 0 = 0
  · rw [if_pos hzero, if_neg fun h => h.2.2 hzero, List.append_nil]
  have hscored : metric.Scored (baseline metric) (current metric) := by
    refine ⟨hneutral, fun hoptional => ?_, hzero⟩
    rw [hoptional, Bool.true_and, Bool.not_eq_true, Bool.not_eq_false', Bool.and_eq_true]
      at hmissing
    exact hmissing
  rw [if_neg hzero, if_pos hscored]
  -- the change goes into the list of its outcome
  unfold Metric.entry Metric.outcome Metric.worsening Verdicts.of
  cases hdirection : metric.direction with
  | neutral => exact absurd hdirection hneutral
  | higherIsBetter =>
    simp only [lt_neg, neg_neg, decide_eq_true_eq, List.filter_append, List.map_append]
    split_ifs <;> simp [ComparedMetric.toRegression, ComparedMetric.toImprovement]
  | lowerIsBetter =>
    simp only [lt_neg, decide_eq_true_eq, List.filter_append, List.map_append]
    split_ifs <;> simp [ComparedMetric.toRegression, ComparedMetric.toImprovement]

/-- The entries of the scored ones of some metrics. -/
def scoredEntries (baseline current : Metric → Option ℚ) (threshold : ℚ)
    (metrics : List Metric) : List ComparedMetric :=
  (metrics.filter fun metric => metric.Scored (baseline metric) (current metric)).map fun metric =>
    metric.entry threshold ((baseline metric).getD 0) ((current metric).getD 0)

/-- **The loop** files the entries of the scored metrics, in the order of the
names. -/
theorem foldl_scoreMetric (hbaseline : NamedTree.Tabulates Metric.name baseline baselineMap)
    (hcurrent : NamedTree.Tabulates Metric.name current currentMap) (metrics : List Metric) :
    (metrics.map Metric.name).foldl (scoreMetric baselineMap currentMap threshold) {}
      = .of (scoredEntries baseline current threshold metrics) := by
  induction metrics using List.reverseRecOn with
  | nil => rfl
  | append_singleton metrics metric ih =>
    rw [List.map_append, List.foldl_append, ih]
    show scoreMetric baselineMap currentMap threshold _ metric.name = _
    rw [scoreMetric_name hbaseline hcurrent]
    unfold scoredEntries
    rw [List.filter_append, List.map_append]
    congr 2
    by_cases hscored : metric.Scored (baseline metric) (current metric) <;> simp [hscored]

/-- **The names of the loop** are those of the metrics that one of the maps
defines, each once and in order. -/
theorem exists_metricNames (hbaseline : NamedTree.Tabulates Metric.name baseline baselineMap)
    (hcurrent : NamedTree.Tabulates Metric.name current currentMap) :
    ∃ metrics : List Metric, metricNames baselineMap currentMap = metrics.map Metric.name
      ∧ metrics.Pairwise (fun metric metric' => metric.name < metric'.name)
      ∧ ∀ metric, metric ∈ metrics
        ↔ (baseline metric).isSome = true ∨ (current metric).isSome = true := by
  have hmem : ∀ name, name ∈ metricNames baselineMap currentMap
      ↔ name ∈ baselineMap ∨ name ∈ currentMap := by
    intro name
    unfold metricNames
    rw [Std.ExtTreeSet.mem_toList, Std.ExtTreeSet.mem_ofList, List.contains_iff_mem,
      List.mem_append, Std.ExtTreeMap.mem_keys, Std.ExtTreeMap.mem_keys]
  have hnames : ∀ name ∈ metricNames baselineMap currentMap, name ∈ Set.range Metric.name := by
    intro name hname
    obtain h | h := (hmem name).mp hname
    · obtain ⟨metric, rfl⟩ := hbaseline.named name h
      exact ⟨metric, rfl⟩
    · obtain ⟨metric, rfl⟩ := hcurrent.named name h
      exact ⟨metric, rfl⟩
  -- every name is that of a metric, so the names are the image of a list of them
  obtain ⟨metrics, hmetrics⟩ : metricNames baselineMap currentMap
      ∈ Set.range (List.map Metric.name) := by
    rw [Set.range_list_map]
    exact hnames
  refine ⟨metrics, hmetrics.symm, ?_, fun metric => ?_⟩
  · have hordered : (metricNames baselineMap currentMap).Pairwise fun a b => compare a b = .lt :=
      Std.ExtTreeSet.ordered_toList
    rw [← hmetrics, List.pairwise_map] at hordered
    exact hordered.imp compare_lt_iff_lt.mp
  · rw [← hbaseline.mem_iff, ← hcurrent.mem_iff, ← hmem, ← hmetrics,
      List.mem_map_of_injective Metric.name_injective]

end Score

/-! ## What the verdicts say

The statements of the documentation, about the lists of one comparison. -/

section Consistent

variable (sqrt : ℚ → ℚ) (baseline current : ReportMetrics) (threshold : ℚ)
  (window : Option CompareWindow)

/-- Whether a comparison of two reports scores a metric. -/
def Metric.ScoredIn (metric : Metric) : Prop :=
  metric.Scored (metric.value sqrt baseline window) (metric.value sqrt current window)

/-- The entry of a metric in a comparison of two reports; a count that a
report does not have is 0. -/
def Metric.entryIn (metric : Metric) : ComparedMetric :=
  metric.entry threshold ((metric.value sqrt baseline window).getD 0)
    ((metric.value sqrt current window).getD 0)

/-- **What a comparison does**: it lists the entries of the scored metrics in
name order. -/
theorem compareMetricsIn_eq :
    ∃ metrics : List Metric,
      (compareMetricsIn sqrt baseline current threshold window).toVerdicts
          = .of (metrics.map (Metric.entryIn sqrt baseline current threshold window))
        ∧ metrics.Pairwise (fun metric metric' => metric.name < metric'.name)
        ∧ ∀ metric, metric ∈ metrics ↔ metric.ScoredIn sqrt baseline current window := by
  have hbaseline := tabulates_comparedMap sqrt baseline window
  have hcurrent := tabulates_comparedMap sqrt current window
  obtain ⟨metrics, hnames, hordered, hmem⟩ := exists_metricNames hbaseline hcurrent
  refine ⟨metrics.filter fun metric => metric.Scored (metric.value sqrt baseline window)
    (metric.value sqrt current window), ?_, hordered.filter _, fun metric => ?_⟩
  · show (metricNames _ _).foldl _ _ = _
    rw [hnames, foldl_scoreMetric hbaseline hcurrent]
    rfl
  · rw [List.mem_filter, decide_eq_true_eq, hmem]
    refine and_iff_right_of_imp fun hscored => ?_
    -- a metric that neither report defines would be 0 in both
    by_contra hundefined
    rw [not_or, Option.not_isSome_iff_eq_none, Option.not_isSome_iff_eq_none] at hundefined
    refine hscored.2.2 ⟨?_, ?_⟩
    · rw [hundefined.1, Option.getD_none]
    · rw [hundefined.2, Option.getD_none]

/-- What the documentation says of the verdicts of a comparison. -/
structure Consistent (result : BaselineComparison) : Prop where
  /-- The entries are those of the scored metrics, -/
  scored : ∀ entry, entry ∈ result.compared ↔ ∃ metric : Metric,
    metric.ScoredIn sqrt baseline current window
      ∧ entry = metric.entryIn sqrt baseline current threshold window
  /-- in name order, so each once, -/
  ordered : (result.compared.map (·.metric)).Pairwise (· < ·)
  /-- and the entries with an outcome are listed once more, in their order. -/
  regressions : result.regressions
    = (result.compared.filter (·.outcome = .regression)).map (·.toRegression)
  improvements : result.improvements
    = (result.compared.filter (·.outcome = .improvement)).map (·.toImprovement)
  /-- The number of attempted connections is not an outcome. -/
  attempted : ∀ entry ∈ result.compared, entry.metric ≠ "total_connections_attempted"
  /-- Nothing is said of a metric that is 0 in both reports, -/
  nonzero : ∀ entry ∈ result.compared, ¬(entry.baseline = 0 ∧ entry.current = 0)
  /-- nor of an optional one that a report does not define. -/
  defined : ∀ entry ∈ result.compared, ∀ metric : Metric, entry.metric = metric.name →
    (entry.metric.startsWith "response_time." ∨ entry.metric.startsWith seriesPrefix) →
    metric.value sqrt baseline window = some entry.baseline
      ∧ metric.value sqrt current window = some entry.current
  /-- The outcome is a regression when the change is beyond the threshold in
  the worse direction, and an improvement when it is in the better one. -/
  regressed : ∀ entry ∈ result.compared, ∀ metric : Metric, entry.metric = metric.name →
    (entry.outcome = .regression
      ↔ threshold < metric.worsening (pctChange entry.baseline entry.current))
  improved : ∀ entry ∈ result.compared, ∀ metric : Metric, entry.metric = metric.name →
    (entry.outcome = .improvement
      ↔ threshold < -metric.worsening (pctChange entry.baseline entry.current))
  /-- A new error category is a regression, -/
  newErrors : threshold < 100 → ∀ (category : ErrorCategory) (count : ℕ),
    baseline.errorBreakdown[category]? = none → current.errorBreakdown[category]? = some count →
    count ≠ 0 →
    ∃ regression ∈ result.regressions, regression.metric = "errors." ++ category.jsonName
  /-- and so is what should be high and drops to 0. -/
  drops : threshold < 100 → ∀ metric : Metric, metric.direction = .higherIsBetter →
    ∀ before, metric.value sqrt baseline window = some before → before ≠ 0 →
    metric.value sqrt current window = some 0 →
    ∃ regression ∈ result.regressions, regression.metric = metric.name

variable {sqrt baseline current threshold window}

/-- A change beyond the threshold in the worse direction is a regression. -/
theorem Metric.outcome_eq_regression {metric : Metric} {change : ℚ} :
    metric.outcome threshold change = .regression ↔ threshold < metric.worsening change := by
  unfold Metric.outcome
  split_ifs <;> simp_all

/-- A change beyond the threshold in the better direction is an improvement. -/
theorem Metric.outcome_eq_improvement {metric : Metric} {change : ℚ} (h : 0 ≤ threshold) :
    metric.outcome threshold change = .improvement ↔ threshold < -metric.worsening change := by
  unfold Metric.outcome
  split_ifs with hworse hbetter
  · have hnot : ¬threshold < -metric.worsening change := by linarith
    simp [hnot]
  · simp [hbetter]
  · simp [hbetter]

/-- The change of a metric that is the same in both reports. -/
theorem pctChange_self {v : ℚ} (h : v ≠ 0) : pctChange v v = 0 := by
  rw [pctChange, if_neg h, sub_self, zero_div, zero_mul]

/-- The change of a metric that drops to 0. -/
theorem pctChange_zero {v : ℚ} (h : v ≠ 0) : pctChange v 0 = -100 := by
  rw [pctChange, if_neg h, zero_sub, neg_div, div_self h]
  norm_num

/-- A scored metric that got worse beyond the threshold is listed. -/
theorem exists_regression {metric : Metric}
    (hscored : metric.ScoredIn sqrt baseline current window)
    (hworse : threshold < metric.worsening (pctChange ((metric.value sqrt baseline window).getD 0)
      ((metric.value sqrt current window).getD 0))) :
    ∃ regression ∈ (compareMetricsIn sqrt baseline current threshold window).regressions,
      regression.metric = metric.name := by
  obtain ⟨metrics, heq, -, hmem⟩ := compareMetricsIn_eq sqrt baseline current threshold window
  rw [heq]
  refine ⟨(metric.entryIn sqrt baseline current threshold window).toRegression, ?_, rfl⟩
  refine List.mem_map_of_mem (List.mem_filter.mpr ⟨?_, ?_⟩)
  · exact List.mem_map_of_mem ((hmem metric).mpr hscored)
  · exact decide_eq_true (Metric.outcome_eq_regression.mpr hworse)

/-- **The verdicts of a comparison are consistent.** -/
theorem consistent_compareMetricsIn (h : 0 ≤ threshold) :
    Consistent sqrt baseline current threshold window
      (compareMetricsIn sqrt baseline current threshold window) := by
  obtain ⟨metrics, heq, hordered, hmem⟩ :=
    compareMetricsIn_eq sqrt baseline current threshold window
  have hentry : ∀ entry,
      entry ∈ (compareMetricsIn sqrt baseline current threshold window).compared
        ↔ ∃ metric : Metric, metric.ScoredIn sqrt baseline current window
          ∧ entry = metric.entryIn sqrt baseline current threshold window := by
    intro entry
    rw [heq]
    show entry ∈ metrics.map _ ↔ _
    simp only [List.mem_map, hmem, eq_comm]
  -- the metric of an entry is known by its name
  have hof : ∀ entry ∈ (compareMetricsIn sqrt baseline current threshold window).compared,
      ∀ metric : Metric, entry.metric = metric.name →
        metric.ScoredIn sqrt baseline current window
          ∧ entry = metric.entryIn sqrt baseline current threshold window := by
    intro entry hmementry metric hname
    obtain ⟨metric', hscored, rfl⟩ := (hentry entry).mp hmementry
    obtain rfl : metric' = metric := Metric.name_injective hname
    exact ⟨hscored, rfl⟩
  -- one field of the promise after the other, each read off the entries
  refine
    { scored := hentry
      ordered := ?_
      regressions := ?_
      improvements := ?_
      attempted := ?_
      nonzero := ?_
      defined := ?_
      regressed := ?_
      improved := ?_
      newErrors := ?_
      drops := ?_ }
  · rw [heq]
    show ((metrics.map _).map _).Pairwise _
    rw [List.map_map, List.pairwise_map]
    exact hordered
  · rw [heq]
    rfl
  · rw [heq]
    rfl
  · intro entry hmementry hname
    obtain ⟨hscored, -⟩ := hof entry hmementry .connectionsAttempted hname
    exact hscored.1 rfl
  · intro entry hmementry
    obtain ⟨metric, hscored, rfl⟩ := (hentry entry).mp hmementry
    exact hscored.2.2
  · intro entry hmementry metric hname hprefix
    obtain ⟨hscored, rfl⟩ := hof entry hmementry metric hname
    have hoptional : metric.isOptional = true := by
      rw [← metric.startsWith_name, Bool.or_eq_true]
      exact hprefix
    obtain ⟨hbaseline, hcurrent⟩ := hscored.2.1 hoptional
    obtain ⟨before, hbefore⟩ := Option.isSome_iff_exists.mp hbaseline
    obtain ⟨after, hafter⟩ := Option.isSome_iff_exists.mp hcurrent
    unfold Metric.entryIn Metric.entry
    rw [hbefore, hafter]
    exact ⟨rfl, rfl⟩
  · intro entry hmementry metric hname
    obtain ⟨-, rfl⟩ := hof entry hmementry metric hname
    exact Metric.outcome_eq_regression
  · intro entry hmementry metric hname
    obtain ⟨-, rfl⟩ := hof entry hmementry metric hname
    exact Metric.outcome_eq_improvement h
  · intro hthreshold category count hbaseline hcurrent hcount
    have hbefore : (Metric.errors category).value sqrt baseline window = none := by
      show (baseline.errorBreakdown[category]?).map _ = none
      rw [hbaseline, Option.map_none]
    have hafter : (Metric.errors category).value sqrt current window = some (count : ℚ) := by
      show (current.errorBreakdown[category]?).map _ = _
      rw [hcurrent, Option.map_some]
    show ∃ regression ∈ (compareMetricsIn sqrt baseline current threshold window).regressions,
      regression.metric = (Metric.errors category).name
    refine exists_regression ?_ ?_
    · refine ⟨nofun, nofun, ?_⟩
      rw [hafter, Option.getD_some, Nat.cast_eq_zero]
      exact fun hzero => hcount hzero.2
    · -- from nothing is a full move
      rw [hbefore, Option.getD_none, pctChange, if_pos rfl]
      exact hthreshold
  · intro hthreshold metric hhigher before hbefore hne hafter
    refine exists_regression ?_ ?_
    · refine ⟨?_, fun _ => ?_, ?_⟩
      · rw [hhigher]
        exact nofun
      · rw [hbefore, hafter]
        exact ⟨rfl, rfl⟩
      · rw [hbefore, Option.getD_some]
        exact fun hzero => hne hzero.1
    · rw [hbefore, hafter, Option.getD_some, Option.getD_some, pctChange_zero hne,
        Metric.worsening, hhigher]
      show threshold < - -100
      rw [neg_neg]
      exact hthreshold

/-- **Nothing changes between a report and itself.** -/
theorem outcome_of_self (h : 0 ≤ threshold) :
    ∀ entry ∈ (compareMetricsIn sqrt current current threshold window).compared,
      entry.outcome = .withinThreshold := by
  intro entry hmem
  have hconsistent : Consistent sqrt current current threshold window _ :=
    consistent_compareMetricsIn h
  obtain ⟨metric, hscored, rfl⟩ := (hconsistent.scored entry).mp hmem
  have hne : (metric.value sqrt current window).getD 0 ≠ 0 := fun hzero =>
    hscored.2.2 ⟨hzero, hzero⟩
  have hstill : metric.worsening 0 = 0 := by
    unfold Metric.worsening
    split
    · exact neg_zero
    · rfl
    · rfl
  show metric.outcome threshold (pctChange _ _) = _
  rw [pctChange_self hne, Metric.outcome, hstill, neg_zero, if_neg (not_lt.mpr h),
    if_neg (not_lt.mpr h)]

/-- **The verdicts of a comparison are consistent**, and a report compared
with itself has neither regressions nor improvements. -/
theorem comparison_verdicts_consistent (sqrt : ℚ → ℚ) (baseline current : ReportMetrics)
    {threshold : ℚ} (window : Option CompareWindow) (h : 0 ≤ threshold) :
    Consistent sqrt baseline current threshold window
        (compareMetricsIn sqrt baseline current threshold window)
      ∧ (compareMetricsIn sqrt current current threshold window).regressions = []
      ∧ (compareMetricsIn sqrt current current threshold window).improvements = [] := by
  have hconsistent : Consistent sqrt current current threshold window _ :=
    consistent_compareMetricsIn h
  refine ⟨consistent_compareMetricsIn h, ?_, ?_⟩
  · rw [hconsistent.regressions, List.map_eq_nil_iff, List.filter_eq_nil_iff]
    intro entry hmem
    rw [outcome_of_self h entry hmem]
    decide
  · rw [hconsistent.improvements, List.map_eq_nil_iff, List.filter_eq_nil_iff]
    intro entry hmem
    rw [outcome_of_self h entry hmem]
    decide

/-- An echo run of 51 messages, of which some got no reply. -/
def echoReport (timeouts : ℕ) : ReportMetrics where
  totalConnectionsAttempted := 1
  totalConnectionsEstablished := 1
  totalConnectionsFailed := 0
  totalConnectionsInterrupted := 0
  totalConnectionsNotStarted := 0
  totalReconnects := 0
  totalUnsolicitedFrames := 0
  totalMessagesSent := 51
  totalMessagesRecv := 51 - timeouts
  totalBytesSent := 51
  totalBytesRecv := 51 - timeouts
  elapsed := Duration.ofSecs 51
  throughputMsgPerSec := 1
  throughputBytesPerSec := (102 - timeouts : ℕ) / 51
  errorRate := timeouts / 51
  handshakeLatency := .fromHistogram 0
  messageRtt := .fromHistogram 0
  responseTime := .fromHistogram 0
  slowReplies := none
  actions := []
  errorBreakdown := if timeouts = 0 then ∅ else TallyMap.bump ∅ .timeout timeouts
  chaos := none

theorem comparison_verdicts_consistent_timeouts :
    ∃ regression ∈
      (compareMetricsIn id (echoReport 0) (echoReport 51) 10 none).regressions,
      regression.metric = "errors.timeout" :=
  (comparison_verdicts_consistent id (echoReport 0) (echoReport 51) none (by norm_num)).1.newErrors
    (by norm_num) .timeout 51 (by decide +kernel) (by decide +kernel) (by norm_num)

end Consistent

end WsBlast
