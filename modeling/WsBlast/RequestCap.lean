import WsBlast.FleetRuns
import WsBlast.Plan

/-!
# The request cap

`--requests N` caps the messages of a whole run: right before each send a
worker claims one message from a counter that all workers share, over all
phases of a scenario. The books of a fleet say that the messages sent and the
claims not used up yet are within the claims granted, so no run sends more
than `N` messages, as long as every send is claimed.

The graphql-ws loop sends its `connection_init` and `subscribe` without a
claim, and such a run goes over the cap (`graphQLRun_exceeds_cap`).

The claim and the send are two steps, and other workers move in between. What
makes the cap hold in spite of that is the order: a claim is granted at most `N`
times however the workers interleave, because the counter is incremented
atomically, and a send that needs a claim has one of its own.
-/

namespace WsBlast

namespace FleetRun

variable {ι : Type} [DecidableEq ι] [Fintype ι]

/-- The messages recorded as sent, over all workers. -/
def totalSent (run : FleetRun ι) : ℕ := ∑ i, (run.now.workers i).messagesSent

/-- Where every send is claimed from the same limit, the limit is kept. -/
theorem totalSent_le (run : FleetRun ι) {max : ℕ} (hcap : run.CappedAt (some max)) :
    run.totalSent ≤ max := by
  have hclaims := (run.books (some max) hcap).1.claims max rfl
  calc run.totalSent
      ≤ ∑ i, ((run.now.workers i).messagesSent + (run.ledger (some max) i).credit) :=
        Finset.sum_le_sum fun i _ => Nat.le_add_right _ _
    _ ≤ min run.now.heap.live.requestsClaimed max := hclaims
    _ ≤ max := min_le_right _ _

end FleetRun

/-- The caps of a plan's shares add up to the cap that was split. -/
theorem sum_maxRequests_of_plan {config : LoadTestConfig} {agents max : ℕ}
    {shares : List WireConfig} (hmax : config.maxRequests = some max)
    (hplan : plan config agents = .ok shares) :
    (∀ share ∈ shares, share.maxRequests = some (share.maxRequests.getD 0))
      ∧ ∑ k : Fin shares.length, (shares.get k).maxRequests.getD 0 = max := by
  have hshares := plan_maxRequests hplan hmax
  obtain ⟨hok, -⟩ := plan_eq_ok hplan
  constructor
  · intro share hshare
    have hmem : share.maxRequests ∈ (EvenSplit.parts max agents).map some :=
      hshares ▸ List.mem_map_of_mem hshare
    obtain ⟨cap, -, hcap⟩ := List.mem_map.mp hmem
    rw [← hcap]
    rfl
  · calc ∑ k : Fin shares.length, (shares.get k).maxRequests.getD 0
        = (shares.map fun share => share.maxRequests.getD 0).sum :=
          Fin.sum_univ_fun_getElem shares fun share => share.maxRequests.getD 0
      _ = ((shares.map WireConfig.maxRequests).map (·.getD 0)).sum := by
          rw [List.map_map]
          rfl
      _ = (EvenSplit.parts max agents).sum := by
          rw [hshares, List.map_map]
          exact congrArg List.sum (List.map_id _)
      _ = max := EvenSplit.sum_parts max hok.agents_pos

/-- **The request cap is kept by every loop that claims its sends**: in every
run, over any number of workers and phases, and in every run that is split
between agents, as long as no worker runs the graphql-ws loop. -/
theorem request_cap_kept (max : ℕ) :
    (∀ (ι : Type) [DecidableEq ι] [Fintype ι] (run : FleetRun ι),
      (∀ i, (run.workers i).config.maxRequests = some max) →
      (∀ i, runsGraphQL (run.workers i).config (run.workers i).scenario = false) →
        run.totalSent ≤ max)
    ∧ ∀ (config : LoadTestConfig) (agents : ℕ) (shares : List WireConfig),
      config.maxRequests = some max → plan config agents = .ok shares →
      ∀ (ι : Fin shares.length → Type) [∀ k, DecidableEq (ι k)] [∀ k, Fintype (ι k)]
        (run : ∀ k, FleetRun (ι k)),
        (∀ k i, ((run k).workers i).config.maxRequests = (shares.get k).maxRequests) →
        (∀ k i, runsGraphQL ((run k).workers i).config ((run k).workers i).scenario = false) →
          ∑ k, (run k).totalSent ≤ max := by
  refine ⟨?_, ?_⟩
  · intro ι _ _ run hmax hloop
    exact run.totalSent_le fun _ i => ⟨hmax i, hloop i⟩
  · intro config agents shares hmax hplan ι _ _ run hshare hloop
    obtain ⟨hsome, hsum⟩ := sum_maxRequests_of_plan hmax hplan
    rw [← hsum]
    refine Finset.sum_le_sum fun k _ => (run k).totalSent_le fun _ i => ⟨?_, hloop k i⟩
    exact (hshare k i).trans (hsome _ (List.get_mem shares k))

/-- An echo worker that may send one message. -/
def cappedEcho : Worker := plainWorker
  { LoadTestConfig.defaults "ws://localhost:9000/" with
    payload := .staticText "hello"
    maxRequests := some 1
    noReconnect := true }

/-- Its run against a server that echoes the message: the claim of the second
one is refused, and the run is cancelled. -/
def cappedRun : FleetRun Unit :=
  .execute cappedEcho .fresh
    (fun n e => match e with
      | .claimRequest _ => decide (n < 12)
      | e => calm (fun _ _ => .read (some (.ok (.text "hello")))) n e) 60 (by decide +kernel)

/-- A run that reaches its cap and keeps it. -/
theorem cappedRun_keeps_cap :
    (cappedRun.workers ()).config.maxRequests = some 1
      ∧ cappedRun.result () = some () ∧ cappedRun.now.heap.live.requestsClaimed = 2
      ∧ cappedRun.totalSent ≤ 1 := by
  refine ⟨rfl, by decide +kernel, by decide +kernel, ?_⟩
  exact (request_cap_kept 1).1 Unit cappedRun (fun _ => rfl) fun _ => rfl

/-- A graphql-ws worker that may send one message. -/
def cappedGraphQL : Worker := plainWorker
  { LoadTestConfig.defaults "ws://localhost:9000/" with
    mode := .graphQLWS
    subprotocol := some "graphql-transport-ws"
    graphqlWs := some ⟨none, "subscription tick", none, none⟩
    maxRequests := some 1
    noReconnect := true }

/-- Its run up to the subscription, which the server acknowledged. -/
def graphQLRun : FleetRun Unit :=
  .execute cappedGraphQL .fresh
    (calm fun _ _ => .read (some (.ok (.text "\x7b\"type\":\"connection_ack\"\x7d")))) 30
    (by decide +kernel)

/-- **The graphql-ws loop goes over the cap**: `connection_init` and
`subscribe` are two messages against a cap of one. -/
theorem graphQLRun_exceeds_cap :
    (graphQLRun.workers ()).config.maxRequests = some 1 ∧ graphQLRun.totalSent = 2
      ∧ ¬graphQLRun.totalSent ≤ 1 := by
  have hsent : graphQLRun.totalSent = 2 := by decide +kernel
  refine ⟨rfl, hsent, ?_⟩
  rw [hsent]
  decide

end WsBlast
