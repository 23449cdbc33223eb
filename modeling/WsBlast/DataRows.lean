import WsBlast.Plan

/-!
# Rows of a data file in a distributed run

Connection `n` of agent `i` uses row `n * agents + i`: the connections of a
cluster are dealt out to the agents in turn. Every agent opens its part of the
connections, so the agents together use the rows that the connections of one
machine would (`data_rows_of_agents`).

A worker does not know how many connections the others open; it knows its number
on its own agent and the agent's place among the agents. Dealing the rows out in
turn makes these two enough, and it works for any split of the connections in
which the agents' parts differ by at most one, which is what `split` gives.
-/

namespace WsBlast

namespace DataSet

/-- The row of a connection, from its number in the cluster. -/
theorem rowFor_withShare (data : DataSet) {index agents worker : ℕ} (hindex : index < agents)
    (hfits : worker * agents + index ≤ usizeMax) :
    (data.withShare index agents).rowFor worker
      = (worker * agents + index) % data.rows.length := by
  unfold withShare rowFor
  by_cases hmany : 1 < agents
  · rw [if_pos hmany]
    show saturate (saturate (worker * agents) + index) % data.rows.length = _
    unfold saturate
    rw [min_eq_left (le_of_add_le_left hfits), min_eq_left hfits]
  · -- a single agent is one machine
    have hone : agents = 1 := by omega
    have hzero : index = 0 := by omega
    rw [if_neg hmany, hone, hzero, Nat.mul_one, Nat.add_zero]

/-- The rows the workers of agent `index` use. -/
def agentRows (data : DataSet) (connections agents index : ℕ) : Multiset ℕ :=
  (Multiset.range (split connections index agents)).map (data.withShare index agents).rowFor

/-- The rows the workers of one machine use. -/
def rowsUsed (data : DataSet) (connections : ℕ) : Multiset ℕ :=
  (Multiset.range connections).map data.rowFor

end DataSet

/-- A multiset of values is the sum of the single values. -/
theorem map_range_eq_sum (f : ℕ → ℕ) (n : ℕ) :
    (Multiset.range n).map f = ∑ x ∈ Finset.range n, {f x} := by
  show _ = ((Multiset.range n).map fun x => ({f x} : Multiset ℕ)).sum
  rw [← Multiset.sum_map_singleton ((Multiset.range n).map f), Multiset.map_map]
  rfl

namespace DataSet

variable (data : DataSet) {connections agents : ℕ}

/-- **The agents together use the rows of one machine.** -/
theorem sum_agentRows (hshare : data.share = none) (hagents : 0 < agents)
    (hfits : connections ≤ usizeMax) :
    ∑ index ∈ Finset.range agents, data.agentRows connections agents index
      = data.rowsUsed connections := by
  have hone : ∀ worker, data.rowFor worker = worker % data.rows.length := by
    intro worker
    unfold rowFor
    rw [hshare]
  unfold agentRows rowsUsed
  rw [map_range_eq_sum, ← EvenSplit.sum_deal connections hagents]
  refine Finset.sum_congr rfl fun index hindex => ?_
  rw [Finset.mem_range] at hindex
  rw [map_range_eq_sum, split_eq_part connections index hagents]
  refine Finset.sum_congr rfl fun worker hworker => ?_
  rw [Finset.mem_range, EvenSplit.lt_part_iff hindex] at hworker
  rw [data.rowFor_withShare hindex (hworker.le.trans hfits), hone]

/-- Every row is used about as often as any other. -/
theorem count_rowsUsed (hshare : data.share = none) {row : ℕ} (hrow : row < data.rows.length) :
    (data.rowsUsed connections).count row
      = EvenSplit.part connections data.rows.length row := by
  rw [← EvenSplit.count_mod_eq_part hrow, Nat.count_eq_card_filter_range]
  unfold rowsUsed
  rw [Multiset.count_map]
  refine congrArg Multiset.card (Multiset.filter_congr fun worker _ => ?_)
  unfold rowFor
  rw [hshare]
  exact eq_comm

end DataSet

/-- **Data rows of a distributed run are those of one machine.** The
connections of a cluster are dealt out to the agents in turn, each once; the
agents' rows are together the rows of one machine; while there are enough rows
no two connections share one, and every row is used about as often as any
other. Connections beyond the first share keep different numbers too. -/
theorem data_rows_of_agents (data : DataSet) (connections agents : ℕ)
    (hshare : data.share = none) (hrows : 0 < data.rows.length) (hagents : 0 < agents)
    (hfits : connections ≤ usizeMax) :
    Set.BijOn (fun p : ℕ × ℕ => p.2 * agents + p.1)
        {p | p.1 < agents ∧ p.2 < split connections p.1 agents} (Set.Iio connections)
      ∧ ∑ index ∈ Finset.range agents, data.agentRows connections agents index
        = data.rowsUsed connections
      ∧ (connections ≤ data.rows.length →
        ∀ i < agents, ∀ j < agents, ∀ n < split connections i agents,
          ∀ m < split connections j agents,
          (data.withShare i agents).rowFor n = (data.withShare j agents).rowFor m →
            i = j ∧ n = m)
      ∧ (∀ row < data.rows.length,
        (∑ index ∈ Finset.range agents, data.agentRows connections agents index).count row
            = connections / data.rows.length
          ∨ (∑ index ∈ Finset.range agents, data.agentRows connections agents index).count row
            = (connections + data.rows.length - 1) / data.rows.length)
      ∧ (∀ i < agents, ∀ j < agents, ∀ n m, n * agents + i = m * agents + j → i = j ∧ n = m)
      ∧ ∀ i < agents, ∀ n, n * agents + i ≤ usizeMax →
        (data.withShare i agents).rowFor n = (n * agents + i) % data.rows.length := by
  have hpart : ∀ i, split connections i agents = EvenSplit.part connections agents i :=
    fun i => split_eq_part connections i hagents
  have hsum := data.sum_agentRows hshare hagents hfits
  refine ⟨?_, hsum, ?_, ?_, ?_, fun i hi n hn => data.rowFor_withShare hi hn⟩
  · simp only [hpart]
    exact EvenSplit.bijOn_deal connections hagents
  · intro henough i hi j hj n hn m hm heq
    rw [hpart, EvenSplit.lt_part_iff hi] at hn
    rw [hpart, EvenSplit.lt_part_iff hj] at hm
    rw [data.rowFor_withShare hi (hn.le.trans hfits), data.rowFor_withShare hj (hm.le.trans hfits),
      Nat.mod_eq_of_lt (hn.trans_le henough), Nat.mod_eq_of_lt (hm.trans_le henough)] at heq
    exact EvenSplit.deal_injective hi hj heq
  · intro row hrow
    rw [hsum, data.count_rowsUsed hshare hrow]
    exact EvenSplit.part_eq_div_or_ceil hrows row
  · exact fun i hi j hj n m heq => EvenSplit.deal_injective hi hj heq

/-- Two agents with five connections and three rows: the first opens three
connections and the second two, and they use the rows 0, 1, 2, 0, 1. -/
theorem data_rows_of_two_agents :
    let data : DataSet := ⟨"users.csv", ["user"], [["ann"], ["bob"], ["cy"]], none⟩
    data.agentRows 5 2 0 = {0, 2, 1} ∧ data.agentRows 5 2 1 = {1, 0}
      ∧ ∑ index ∈ Finset.range 2, data.agentRows 5 2 index = data.rowsUsed 5 := by
  intro data
  refine ⟨by decide, by decide, ?_⟩
  exact (data_rows_of_agents data 5 2 rfl (by decide) (by decide) (by decide)).2.1

end WsBlast
