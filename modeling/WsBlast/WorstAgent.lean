import WsBlast.ScenarioMerge
import WsBlast.Slo

/-!
# The generator health of a run is its worst agent's

`GeneratorHealth.of` looks at the agents one after the other and keeps the
first whose lag, or whose limit on open files, is worse than that of all
before it. This is the first maximum of a list under a key (`lag_foldl_look`,
`files_foldl_look`), whose key does not depend on the order of the list.

A distributed run is only as trustworthy as its most loaded generator, so the
report takes the lag of one agent and not a mixture. The comparison is by p99
and then by maximum, and only a worse lag replaces the one kept, so that of
several equal ones the first agent's is shown.
-/

namespace WsBlast

/-! ## The first maximum of a list

General facts about `argmax` and permutations, and the two folds as instances.
-/

section Argmax

variable {α β : Type} [LinearOrder β] {f : α → β} {l l' : List α}

/-- The key of the maximum does not depend on the order. -/
theorem map_argmax_perm (h : l.Perm l') : (l.argmax f).map f = (l'.argmax f).map f := by
  rcases hm : l.argmax f with _ | m
  · rw [List.argmax_eq_none] at hm
    subst hm
    rw [h.nil_eq.symm]
    rfl
  · rcases hm' : l'.argmax f with _ | m'
    · rw [List.argmax_eq_none] at hm'
      subst hm'
      rw [h.eq_nil] at hm
      cases hm
    · have hle : f m ≤ f m' := List.le_of_mem_argmax (h.mem_iff.mp (List.argmax_mem hm)) hm'
      have hge : f m' ≤ f m := List.le_of_mem_argmax (h.mem_iff.mpr (List.argmax_mem hm')) hm
      rw [Option.map_some, Option.map_some, hle.antisymm hge]

/-- Without ties the maximum itself does not. -/
theorem argmax_perm (h : l.Perm l') (hties : ∀ a ∈ l, ∀ b ∈ l, f a = f b → a = b) :
    l.argmax f = l'.argmax f := by
  have hkey := map_argmax_perm (f := f) h
  rcases hm : l.argmax f with _ | m <;> rcases hm' : l'.argmax f with _ | m'
  · rfl
  · rw [hm, hm'] at hkey
    cases hkey
  · rw [hm, hm'] at hkey
    cases hkey
  · rw [hm, hm', Option.map_some, Option.map_some, Option.some_inj] at hkey
    rw [hties m (List.argmax_mem hm) m' (h.mem_iff.mpr (List.argmax_mem hm')) hkey]

/-- A fold that keeps, of what its elements bring, the first maximum. -/
theorem foldl_keeps_argmax {S A : Type} {look : S → A → S} {kept : S → Option α}
    {own : A → Option α}
    (hlook : ∀ s a, kept (look s a)
      = (own a).elim (kept s) (List.argAux (fun b c => f c < f b) (kept s)))
    {s : S} (hs : kept s = none) (items : List A) :
    kept (items.foldl look s) = (items.filterMap own).argmax f := by
  have hfold (s : S) : kept (items.foldl look s)
      = (items.filterMap own).foldl (List.argAux fun b c => f c < f b) (kept s) := by
    induction items generalizing s with
    | nil => rfl
    | cons a items ih =>
      rw [List.foldl_cons, ih, hlook]
      rcases hown : own a with _ | item
      · rw [List.filterMap_cons_none hown, Option.elim_none]
      · rw [List.filterMap_cons_some hown, List.foldl_cons, Option.elim_some]
  rw [hfold, hs]
  rfl

end Argmax

namespace GeneratorHealth

/-- The lags of the agents that have one, with their names. -/
def lags (generators : List AgentGenerator) : List (String × GeneratorLag) :=
  generators.filterMap fun agent => agent.generatorLag.map fun own => (agent.agent, own)

/-- The limits on open files of the agents that have one, with their names. -/
def limits (generators : List AgentGenerator) : List (String × OpenFileLimit) :=
  generators.filterMap fun agent => agent.openFileLimit.map fun own => (agent.agent, own)

/-- Lags are compared by their p99, and by their maximum when it is the
same. -/
def lagKey (item : String × GeneratorLag) : ℕ ×ₗ ℕ := toLex (item.2.p99Us, item.2.maxUs)

/-- The descriptors an agent is short of; limits are compared by it. -/
def shortage (item : String × OpenFileLimit) : ℤ := -headroom item.2

theorem worse_some (own worst : GeneratorLag) (name name' : String) :
    worse own (some (name, worst)) = true ↔ lagKey (name, worst) < lagKey (name', own) := by
  simp [worse, lagKey, Prod.Lex.toLex_lt_toLex]

theorem tighter_some (own tightest : OpenFileLimit) (name name' : String) :
    tighter own (some (name, tightest)) = true ↔
      shortage (name, tightest) < shortage (name', own) := by
  simp [tighter, shortage]

/-- **The lag kept is the first maximum.** -/
theorem lag_foldl_look (generators : List AgentGenerator) :
    (generators.foldl look {}).lag = (lags generators).argmax lagKey := by
  refine foldl_keeps_argmax (fun health agent => ?_) rfl generators
  unfold look
  rcases agent.generatorLag with _ | own
  · rfl
  · rcases health.lag with _ | ⟨name, worst⟩
    · rfl
    · dsimp only [Option.map_some, Option.elim_some, List.argAux]
      exact if_congr (worse_some own worst name agent.agent) rfl rfl

/-- **The limit kept is the first with the largest shortage.** -/
theorem files_foldl_look (generators : List AgentGenerator) :
    (generators.foldl look {}).files = (limits generators).argmax shortage := by
  refine foldl_keeps_argmax (fun health agent => ?_) rfl generators
  unfold look
  rcases agent.openFileLimit with _ | own
  · rfl
  · rcases health.files with _ | ⟨name, tightest⟩
    · rfl
    · dsimp only [Option.map_some, Option.elim_some, List.argAux]
      exact if_congr (tighter_some own tightest name agent.agent) rfl rfl

/-- Whether some agent's generator was saturated. -/
def anySaturated (generators : List AgentGenerator) : Bool :=
  generators.any fun agent => agent.generatorLag.any (·.saturated)

/-- A lag with the flag of the whole run. -/
def flagged (saturated : Bool) (item : String × GeneratorLag) : String × GeneratorLag :=
  (item.1, { item.2 with saturated })

theorem lag_of (generators : List AgentGenerator) :
    (of generators).lag
      = ((lags generators).argmax lagKey).map (flagged (anySaturated generators)) := by
  rw [← lag_foldl_look]
  rfl

theorem files_of (generators : List AgentGenerator) :
    (of generators).files = (limits generators).argmax shortage := files_foldl_look generators

theorem anySaturated_iff {generators : List AgentGenerator} :
    anySaturated generators = true ↔ ∃ item ∈ lags generators, item.2.saturated = true := by
  unfold anySaturated lags
  rw [List.any_eq_true]
  constructor
  · rintro ⟨agent, hagent, hflag⟩
    rcases hown : agent.generatorLag with _ | own
    · rw [hown] at hflag
      cases hflag
    · rw [hown, Option.any_some] at hflag
      exact ⟨(agent.agent, own), List.mem_filterMap.mpr ⟨agent, hagent, by rw [hown]; rfl⟩, hflag⟩
  · rintro ⟨item, hitem, hflag⟩
    obtain ⟨agent, hagent, hown⟩ := List.mem_filterMap.mp hitem
    obtain ⟨own, hlag, rfl⟩ := Option.map_eq_some_iff.mp hown
    exact ⟨agent, hagent, by rw [hlag]; exact hflag⟩

theorem anySaturated_perm {generators generators' : List AgentGenerator}
    (h : generators.Perm generators') : anySaturated generators = anySaturated generators' :=
  h.any_eq

/-! ## The reported lag

An agent without samples has no lag and is passed over. -/

/-- What a run reports of the agents' lags: the lag of one of them, flagged
for all of them. -/
structure ReportsLag (generators : List AgentGenerator) (name : String) (worst : GeneratorLag) :
    Prop where
  /-- It is an agent's lag, up to the flag. -/
  own : ∃ own, (name, own) ∈ lags generators ∧ worst = { own with saturated := worst.saturated }
  /-- Its p99 is the maximum of the agents'. -/
  maximum : ∀ item ∈ lags generators, item.2.p99Us ≤ worst.p99Us
  flag : worst.saturated = true ↔ ∃ item ∈ lags generators, item.2.saturated = true
  /-- A gate on the lag fails on it when it fails on the lag of an agent. -/
  gate : ∀ max, (generatorLagCheck (some worst) max).passed = false ↔
    ∃ item ∈ lags generators, (generatorLagCheck (some item.2) max).passed = false

/-- A gate on the lag fails beyond its limit. -/
theorem failed_generatorLagCheck (lag : GeneratorLag) (max : Duration) :
    (generatorLagCheck (some lag) max).passed = false ↔ max < LatencyStats.ofMicros lag.p99Us := by
  show decide _ = false ↔ _
  rw [decide_eq_false_iff_not, not_le]

theorem reportsLag_of {generators : List AgentGenerator} {name : String} {worst : GeneratorLag}
    (h : (of generators).lag = some (name, worst)) : ReportsLag generators name worst := by
  rw [lag_of, Option.map_eq_some_iff] at h
  obtain ⟨⟨name, own⟩, hown, hflagged⟩ := h
  cases hflagged
  have hmem : (name, own) ∈ lags generators := List.argmax_mem hown
  have hmax : ∀ item ∈ lags generators, item.2.p99Us ≤ own.p99Us := by
    intro item hitem
    have hkey : lagKey item ≤ lagKey (name, own) := List.le_of_mem_argmax hitem hown
    rcases Prod.Lex.toLex_le_toLex.mp hkey with hlt | ⟨heq, -⟩
    · exact hlt.le
    · exact heq.le
  refine ⟨⟨own, hmem, rfl⟩, hmax, anySaturated_iff, fun max => ?_⟩
  rw [failed_generatorLagCheck]
  constructor
  · exact fun hover => ⟨(name, own), hmem, (failed_generatorLagCheck own max).mpr hover⟩
  · rintro ⟨item, hitem, hfailed⟩
    rw [failed_generatorLagCheck] at hfailed
    exact hfailed.trans_le (Nat.mul_le_mul_right 1000 (hmax item hitem))

/-! ## The reported limit on open files

A limit is judged when it is read, and the judgment agrees with its numbers. -/

/-- A limit whose flag says whether it is enough. -/
def Judged (limit : OpenFileLimit) : Prop :=
  limit.sufficient = decide (limit.needed ≤ limit.softLimit)

theorem Judged.insufficient {limit : OpenFileLimit} (h : Judged limit) :
    limit.sufficient = false ↔ limit.softLimit < limit.needed := by
  rw [h, decide_eq_false_iff_not, not_le]

/-- What a run reports of the agents' limits on open files: the limit of an
agent with the least to spare. -/
structure ReportsFiles (generators : List AgentGenerator) (name : String)
    (tightest : OpenFileLimit) : Prop where
  mem : (name, tightest) ∈ limits generators
  least : ∀ item ∈ limits generators, headroom tightest ≤ headroom item.2
  /-- It is too low when an agent's is. -/
  short : tightest.softLimit < tightest.needed ↔
    ∃ item ∈ limits generators, item.2.softLimit < item.2.needed
  /-- It is flagged when an agent's is, the agents having judged theirs. -/
  flag : (∀ item ∈ limits generators, Judged item.2) →
    (tightest.sufficient = false ↔ ∃ item ∈ limits generators, item.2.sufficient = false)

theorem headroom_neg (limit : OpenFileLimit) :
    headroom limit < 0 ↔ limit.softLimit < limit.needed := by
  unfold headroom
  omega

theorem reportsFiles_of {generators : List AgentGenerator} {name : String}
    {tightest : OpenFileLimit} (h : (of generators).files = some (name, tightest)) :
    ReportsFiles generators name tightest := by
  rw [files_of] at h
  have hmem : (name, tightest) ∈ limits generators := List.argmax_mem h
  have hleast : ∀ item ∈ limits generators, headroom tightest ≤ headroom item.2 := by
    intro item hitem
    have hkey : shortage item ≤ shortage (name, tightest) := List.le_of_mem_argmax hitem h
    exact neg_le_neg_iff.mp hkey
  have hshort : tightest.softLimit < tightest.needed ↔
      ∃ item ∈ limits generators, item.2.softLimit < item.2.needed := by
    refine ⟨fun hshort => ⟨_, hmem, hshort⟩, ?_⟩
    rintro ⟨item, hitem, hshort⟩
    rw [← headroom_neg] at hshort ⊢
    exact (hleast item hitem).trans_lt hshort
  refine ⟨hmem, hleast, hshort, fun hjudged => ?_⟩
  rw [(hjudged _ hmem).insufficient, hshort]
  exact exists_congr fun item => and_congr_right fun hitem => (hjudged item hitem).insufficient.symm

/-! ## The order of the agents

Agents report in the order in which they finish, which no run repeats. -/

/-- The health of the same agents in two orders: equal but for what is left
open among exact ties. -/
structure EqualUpToTies (generators generators' : List AgentGenerator) : Prop where
  lag : ((of generators).lag.map fun item => (item.2.p99Us, item.2.maxUs, item.2.saturated))
    = ((of generators').lag.map fun item => (item.2.p99Us, item.2.maxUs, item.2.saturated))
  files : ((of generators).files.map fun item => headroom item.2)
    = ((of generators').files.map fun item => headroom item.2)
  lag_of_no_tie : (∀ a ∈ lags generators, ∀ b ∈ lags generators, lagKey a = lagKey b → a = b) →
    (of generators).lag = (of generators').lag
  files_of_no_tie :
    (∀ a ∈ limits generators, ∀ b ∈ limits generators, shortage a = shortage b → a = b) →
      (of generators).files = (of generators').files

/-- **The order of the agents decides between ties only.** -/
theorem of_perm {generators generators' : List AgentGenerator} (h : generators.Perm generators') :
    EqualUpToTies generators generators' := by
  have hlags : (lags generators).Perm (lags generators') := h.filterMap _
  have hlimits : (limits generators).Perm (limits generators') := h.filterMap _
  refine ⟨?_, ?_, fun hties => ?_, fun hties => ?_⟩
  · have hkeys := congrArg (Option.map fun key : ℕ ×ₗ ℕ =>
      ((ofLex key).1, (ofLex key).2, anySaturated generators))
        (map_argmax_perm (f := lagKey) hlags)
    rw [Option.map_map, Option.map_map] at hkeys
    rw [lag_of, lag_of, ← anySaturated_perm h, Option.map_map, Option.map_map]
    exact hkeys
  · have hkeys := congrArg (Option.map fun key : ℤ => -key)
      (map_argmax_perm (f := shortage) hlimits)
    rw [files_of, files_of]
    simpa only [Option.map_map, Function.comp_def, shortage, neg_neg] using hkeys
  · rw [lag_of, lag_of, argmax_perm hlags hties, anySaturated_perm h]
  · rw [files_of, files_of, argmax_perm hlimits hties]

theorem isSome_lag_of (generators : List AgentGenerator) :
    (of generators).lag.isSome ↔ ∃ agent ∈ generators, agent.generatorLag.isSome := by
  rw [lag_of, Option.isSome_map, Option.isSome_iff_ne_none, Ne, List.argmax_eq_none, lags,
    List.filterMap_eq_nil_iff]
  simp [Option.isSome_iff_ne_none]

theorem isSome_files_of (generators : List AgentGenerator) :
    (of generators).files.isSome ↔ ∃ agent ∈ generators, agent.openFileLimit.isSome := by
  rw [files_of, Option.isSome_iff_ne_none, Ne, List.argmax_eq_none, limits,
    List.filterMap_eq_nil_iff]
  simp [Option.isSome_iff_ne_none]

end GeneratorHealth

/-- **A run's generator health is its worst agent's**, whatever the order of
the agents. -/
theorem generator_health_worst (generators : List AgentGenerator) (metrics : ReportMetrics) :
    let health := GeneratorHealth.of generators
    ((health.apply metrics).generatorLag = health.lag.map Prod.snd ∧
      (health.apply metrics).openFileLimit = health.files.map Prod.snd) ∧
      (health.lag.isSome ↔ ∃ agent ∈ generators, agent.generatorLag.isSome) ∧
      (∀ name worst, health.lag = some (name, worst) →
        GeneratorHealth.ReportsLag generators name worst) ∧
      (health.files.isSome ↔ ∃ agent ∈ generators, agent.openFileLimit.isSome) ∧
      (∀ name tightest, health.files = some (name, tightest) →
        GeneratorHealth.ReportsFiles generators name tightest) ∧
      ∀ generators', generators.Perm generators' →
        GeneratorHealth.EqualUpToTies generators generators' :=
  ⟨⟨rfl, rfl⟩, GeneratorHealth.isSome_lag_of generators,
    fun _ _ h => GeneratorHealth.reportsLag_of h, GeneratorHealth.isSome_files_of generators,
    fun _ _ h => GeneratorHealth.reportsFiles_of h, fun _ h => GeneratorHealth.of_perm h⟩

/-- An agent that took no sample fails a gate on the lag by itself, and the
run it is part of passes. -/
theorem generator_health_unsampled :
    let own : GeneratorLag := ⟨10000, 1, by decide, 5, 5, 5, 20000, 1, 0, false⟩
    let agents : List AgentGenerator := [⟨"a", some own, none⟩, ⟨"b", none, none⟩]
    (generatorLagCheck ((GeneratorHealth.of agents).lag.map Prod.snd) 10000000).passed = true ∧
      ∃ agent ∈ agents, (generatorLagCheck agent.generatorLag 10000000).passed = false := by
  refine ⟨by decide +kernel, ⟨"b", none, none⟩, by simp, by decide +kernel⟩

end WsBlast
