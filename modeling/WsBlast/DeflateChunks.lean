import WsBlast.DeflateTracks
import WsBlast.Lib.Machine

/-!
# How the bytes are cut does not matter

A `Connection` is a layer with what went through it: reads and writes in any
order, any pieces read, any amounts taken. Both of its directions keep track of
their scans as long as the head fits and no frame is rejected. At the end, when
a read waits for the connection and a flush has nothing to do, the layer has
done what the scan of all bytes does, in whatever pieces they came
(`chunking_does_not_matter`).

Chunking is up to the network and to the two callers: how many bytes a read
brings, how large the caller's buffer is, how many bytes a write takes, and in
which order reads and writes happen. All of these are free here. A run is any
list of calls, and the theorem compares two runs that have nothing in common
but the bytes.
-/

namespace WsBlast

open Scanner

/-! ## Connections

A layer, what has been asked of it, and a record of the bytes on its four sides.
-/

/-- A layer between its caller and its connection, with what went through
it. -/
structure Connection (D I : Type) where
  stream : DeflateStream D I
  /-- The bytes each pass of a read took from the connection. -/
  reads : List Bytes := []
  /-- The bytes reads returned. -/
  delivered : Bytes := []
  /-- The errors of the layer reads returned. -/
  rejections : List String := []
  /-- The bytes the caller wrote. -/
  written : Bytes := []
  /-- The bytes the connection took. -/
  sent : Bytes := []
  deriving DecidableEq

/-- What the caller does, with the answers of the connection. A read is taken
pass by pass. -/
inductive Call where
  | read (room : ℕ) (answer : ReadAnswer)
  | write (buf : Bytes) (answers : List WriteAnswer)
  | flush (answers : List WriteAnswer)
  | shutdown (answers : List WriteAnswer)
  deriving DecidableEq, Repr

namespace Connection

variable {D I : Type}

section Model

variable (z : Flate2 D I)

/-- A connection before its handshake. -/
def new (role : Role) : Connection D I where
  stream := .new z role

/-- A pass of a read, with its bytes, -/
def afterRead (c : Connection D I) (pass : ReadPass D I) : Connection D I :=
  { c with
    stream := pass.stream
    reads := c.reads ++ [pass.chunk]
    delivered := c.delivered ++ pass.outcome.bytes
    rejections := c.rejections ++ pass.outcome.rejection.toList }

/-- and a write, a flush or a shutdown with theirs. -/
def afterWrite (c : Connection D I) (pass : WritePass D I) : Connection D I :=
  { c with
    stream := pass.stream
    written := c.written ++ pass.written
    sent := c.sent ++ pass.sent }

/-- Every call is possible at any time. -/
def step (c : Connection D I) : Call → Option (Connection D I)
  | .read room answer => some (c.afterRead (c.stream.readPass z room answer))
  | .write buf answers => some (c.afterWrite (c.stream.pollWrite z buf answers))
  | .flush answers => some (c.afterWrite (c.stream.pollFlush z answers))
  | .shutdown answers => some (c.afterWrite (c.stream.pollShutdown answers))

end Model

/-- The bytes read from the connection. -/
def received (c : Connection D I) : Bytes := c.reads.flatten

/-- The bytes of the direction with the response. -/
def response (c : Connection D I) : Bytes :=
  match c.stream.role with
  | .client => c.received
  | .server => c.written

@[simp] theorem received_afterRead (c : Connection D I) (pass : ReadPass D I) :
    (c.afterRead pass).received = c.received ++ pass.chunk := by
  show (c.reads ++ [pass.chunk]).flatten = _
  rw [List.flatten_append, List.flatten_singleton]
  rfl

end Connection

/-! ## The agreement -/

section Agreement

variable {D I : Type} {z : Flate2 D I}

/-- The agreement is the one in the response, whatever becomes of the
frames. -/
structure Led (s : DeflateStream D I) (received written : Bytes) : Prop where
  inbound : carriesResponse s.role true = true →
    Leads s.agreement s.inbound s.rawIn received
  outbound : carriesResponse s.role false = true →
    Leads s.agreement s.outbound s.rawOut written

/-- A response passes in one direction only. -/
theorem carriesResponse_not (role : Role) :
    carriesResponse role false = !carriesResponse role true := by
  cases role <;> rfl

namespace Led

variable {s t : DeflateStream D I} {received written chunk : Bytes} {result : Except String Unit}

theorem processedIn (h : Led s received written) (hp : s.ProcessedIn z chunk t result) :
    Led t (received ++ chunk) written where
  inbound hresponse := by
    rw [hp.role] at hresponse
    have hside := hp.side
    rw [hresponse] at hside
    exact (h.inbound hresponse).processed hside
  outbound hresponse := by
    rw [hp.role] at hresponse
    have hnot : carriesResponse s.role true = false := by
      rw [carriesResponse_not] at hresponse
      simpa using hresponse
    have hagreed := hp.side.agreed
    rw [hnot, if_neg (by simp)] at hagreed
    rw [hagreed, hp.outbound, hp.rawOut]
    exact h.outbound hresponse

theorem processedOut (h : Led s received written) (hp : s.ProcessedOut z chunk t result) :
    Led t received (written ++ chunk) where
  outbound hresponse := by
    rw [hp.role] at hresponse
    have hside := hp.side
    rw [hresponse] at hside
    exact (h.outbound hresponse).processed hside
  inbound hresponse := by
    rw [hp.role] at hresponse
    have hnot : carriesResponse s.role false = false := by
      rw [carriesResponse_not, hresponse]
      rfl
    have hagreed := hp.side.agreed
    rw [hnot, if_neg (by simp)] at hagreed
    rw [hagreed, hp.inbound, hp.rawIn]
    exact h.inbound hresponse

theorem keepsIn (h : Led s received written) (hp : s.ProcessedIn z chunk t result)
    {agreed : Option Params} (hagreed : s.agreement = some agreed) : t.agreement = some agreed := by
  refine hp.side.keeps hagreed fun hresponse => ?_
  have hleads := h.inbound hresponse
  rw [hleads.head, ← responseAgreement_isSome, ← hleads.agreed, hagreed]
  rfl

theorem keepsOut (h : Led s received written) (hp : s.ProcessedOut z chunk t result)
    {agreed : Option Params} (hagreed : s.agreement = some agreed) : t.agreement = some agreed := by
  refine hp.side.keeps hagreed fun hresponse => ?_
  have hleads := h.outbound hresponse
  rw [hleads.head, ← responseAgreement_isSome, ← hleads.agreed, hagreed]
  rfl

/-- What is ready does not matter. -/
theorem withReady (h : Led s received written) (readyIn readyOut : Bytes) :
    Led ((s.withReadyIn readyIn).withReadyOut readyOut) received written where
  inbound hresponse := ⟨(h.inbound hresponse).agreed, (h.inbound hresponse).head,
    (h.inbound hresponse).waits⟩
  outbound hresponse := ⟨(h.outbound hresponse).agreed, (h.outbound hresponse).head,
    (h.outbound hresponse).waits⟩

theorem passes (h : Led s received written) {agreed : Option Params}
    (hagreed : s.agreement = some agreed) (moreIn moreOut : Bytes) :
    Led s (received ++ moreIn) (written ++ moreOut) where
  inbound hresponse := (h.inbound hresponse).passed hagreed rfl moreIn
  outbound hresponse := (h.outbound hresponse).passed hagreed rfl moreOut

/-- A pass of a read keeps it, -/
theorem readPassed (h : Led s received written) {pass : ReadPass D I}
    (hpass : s.ReadPassed z pass) : Led pass.stream (received ++ pass.chunk) written := by
  cases hpass with
  | delivers room ready =>
    rw [List.append_nil]
    exact h.withReady (s.inbound.ready.drop room) s.outbound.ready
  | processes ready processed => exact h.processedIn processed
  | rejects ready processed => exact h.processedIn processed
  | passes ready processed declined none_waits nothing bytes =>
    have hpassed := (h.processedIn processed).passes declined bytes []
    rw [List.append_nil, List.append_nil] at hpassed
    exact hpassed
  | reads ready processed nothing notDirect read =>
    have hprocessed := h.processedIn processed
    rw [List.append_nil] at hprocessed
    exact hprocessed.processedIn read

/-- and so does a write. -/
theorem writePassed (h : Led s received written) {pass : WritePass D I}
    (hpass : s.WritePassed z pass) : Led pass.stream received (written ++ pass.written) := by
  cases hpass with
  | drains all =>
    rw [List.append_nil]
    exact h.withReady s.inbound.ready _
  | @passes buf _ declined none_waits =>
    have hpassed := (h.passes declined [] buf).withReady s.inbound.ready []
    rw [List.append_nil] at hpassed
    exact hpassed
  | writes first notDirect processed second =>
    exact ((h.withReady s.inbound.ready _).processedOut processed).withReady _ _

end Led

end Agreement

/-! ## Both directions keep track

Each direction is followed through the calls of both kinds. -/

/-- The layer accepts a stream of bytes: it waits for the head, and no frame is
rejected. -/
structure Accepts {C : Type} (next : Params → Side C → Bytes → Next (Side C) String)
    (final : Option (Option Params)) (codec : C) (total : Bytes) : Prop where
  fits : HeadFits total
  noError : (scan (nextSide next final) { codec } total).error = none

section Track

variable {D I : Type} {z : Flate2 D I} {final : Option (Option Params)}
  {s t : DeflateStream D I} {received written total chunk : Bytes}

/-- An agreement on the way to another one. -/
theorem onTheWay (hkept : ∀ {agreed : Option Params}, s.agreement = some agreed →
      t.agreement = some agreed) (hfinal : t.agreement = none ∨ t.agreement = final) :
    s.agreement = none ∨ s.agreement = final := by
  cases hs : s.agreement with
  | none => exact Or.inl rfl
  | some agreed =>
    have ht := hkept hs
    rcases hfinal with hnone | hfinal
    · rw [ht] at hnone
      cases hnone
    · rw [← hfinal, ht]
      exact Or.inr rfl

/-- A declined agreement is the one the connection comes to. -/
theorem declined_final (hdeclined : s.agreement = some none)
    (hfinal : s.agreement = none ∨ s.agreement = final) : final = some none := by
  rcases hfinal with hnone | hfinal
  · rw [hdeclined] at hnone
    cases hnone
  · rw [← hfinal, hdeclined]

variable (z final) in
/-- The inbound direction, with what was delivered, keeps track. -/
def InTracks (s : DeflateStream D I) (delivered received : Bytes) : Prop :=
  Tracks (nextIn z s.role) final { inflater := z.newInflater } s.agreement
    (s.inbound.behind delivered) s.rawIn received

variable (z final) in
/-- The outbound direction, with what was sent, keeps track. Before the head has
passed, nothing is ready. -/
structure OutTracks (s : DeflateStream D I) (sent written : Bytes) : Prop where
  tracks : Tracks (nextOut z s.role) final {} s.agreement (s.outbound.behind sent) s.rawOut written
  head : s.outbound.headDone = false → s.outbound.ready = []

namespace InTracks

variable {delivered : Bytes}

theorem processed (hled : Led s received written) (h : InTracks z final s delivered received)
    {result : Except String Unit} (hp : s.ProcessedIn z chunk t result)
    (hdirect : s.agreement = some none → s.rawIn = [] → chunk = [])
    (hfinal : t.agreement = none ∨ t.agreement = final)
    (haccepts : Accepts (nextIn z s.role) final { inflater := z.newInflater } total)
    (hle : received ++ chunk <+: total) :
    result = .ok () ∧ InTracks z final t delivered (received ++ chunk) := by
  have hnext := DeflateStream.rewritesFrames_nextIn (z := z) s.role
  have hprocessed := Tracks.processed hnext h (hp.side.behind hnext delivered)
    (fun hagreed hraw _ => hdirect hagreed hraw) (hled.keepsIn hp) hfinal haccepts.fits
    haccepts.noError hle
  unfold InTracks
  rw [hp.role]
  exact hprocessed

/-- **A pass of a read keeps track**, and rejects nothing. -/
theorem readPassed (hled : Led s received written) (h : InTracks z final s delivered received)
    {pass : ReadPass D I} (hpass : s.ReadPassed z pass)
    (hfinal : pass.stream.agreement = none ∨ pass.stream.agreement = final)
    (haccepts : Accepts (nextIn z s.role) final { inflater := z.newInflater } total)
    (hle : received ++ pass.chunk <+: total) :
    InTracks z final pass.stream (delivered ++ pass.outcome.bytes) (received ++ pass.chunk) := by
  -- the outcome of the pass says what was taken of what was ready
  cases hpass with
  | delivers room ready =>
    have hall : (s.withReadyIn (s.inbound.ready.drop room)).inbound.behind
        (delivered ++ s.inbound.ready.take room) = s.inbound.behind delivered :=
      s.inbound.behind_moved (List.take_append_drop room s.inbound.ready)
    rw [List.append_nil]
    show Tracks _ _ _ _ ((s.withReadyIn (s.inbound.ready.drop room)).inbound.behind
      (delivered ++ s.inbound.ready.take room)) _ _
    rw [hall]
    exact h
  | processes ready processed nothing accepts =>
    rw [nothing, List.append_nil]
    exact (h.processed hled processed (fun _ _ => rfl) hfinal haccepts hle).2
  | rejects ready processed =>
    have hok := (h.processed hled processed (fun _ _ => rfl) hfinal haccepts hle).1
    cases hok
  | @passes t ready processed declined none_waits nothing bytes =>
    have hle' : received ++ [] <+: total := by
      rw [List.append_nil]
      exact (List.prefix_append received bytes).trans hle
    have htracks := (h.processed hled processed (fun _ _ => rfl) hfinal haccepts hle').2
    have hnext := DeflateStream.rewritesFrames_nextIn (z := z) t.role
    unfold InTracks at htracks
    rw [none_waits, List.append_nil] at htracks
    have hpassed := htracks.passes hnext declined (declined_final declined hfinal) bytes
    show Tracks _ _ _ _ (t.inbound.behind (delivered ++ bytes)) t.rawIn _
    rw [t.inbound.behind_passed delivered nothing, none_waits]
    exact hpassed
  | @reads t u chunk result ready processed nothing notDirect read =>
    have hled' := hled.processedIn processed
    have hfinal' : t.agreement = none ∨ t.agreement = final :=
      onTheWay (hled'.keepsIn read) hfinal
    have hle' : received ++ [] <+: total := by
      rw [List.append_nil]
      exact (List.prefix_append received chunk).trans hle
    have htracks := (h.processed hled processed (fun _ _ => rfl) hfinal' haccepts hle').2
    rw [List.append_nil] at htracks hled'
    have hdirect : t.agreement = some none → t.rawIn = [] → chunk = [] :=
      fun hagreed hraw => absurd hraw (notDirect hagreed)
    rw [← processed.role] at haccepts
    obtain ⟨rfl, htracks'⟩ := htracks.processed hled' read hdirect hfinal haccepts hle
    show InTracks z final u (delivered ++ []) _
    rw [List.append_nil]
    exact htracks'

/-- Writes leave the inbound direction. -/
theorem writePassed (hled : Led s received written) (h : InTracks z final s delivered received)
    {pass : WritePass D I} (hpass : s.WritePassed z pass) :
    InTracks z final pass.stream delivered received := by
  cases hpass with
  | drains all => exact h
  | passes declined none_waits => exact h
  | @writes sent ready sent' ready' chunk t result outcome first notDirect processed second =>
    have hkept : s.agreement = some none → t.agreement = some none :=
      (hled.withReady s.inbound.ready ready).keepsOut processed
    unfold InTracks
    show Tracks (nextIn z t.role) _ _ t.agreement (t.inbound.behind delivered) t.rawIn received
    rw [processed.role, processed.inbound, processed.rawIn]
    exact Tracks.agreed h hkept

end InTracks

namespace OutTracks

variable {sent : Bytes}

/-- Bytes the connection took were ready. -/
theorem drained (h : OutTracks z final s sent written) {more ready : Bytes}
    (hall : more ++ ready = s.outbound.ready) :
    OutTracks z final (s.withReadyOut ready) (sent ++ more) written where
  tracks := by
    show Tracks _ _ _ _ ((s.withReadyOut ready).outbound.behind (sent ++ more)) _ _
    rw [show (s.withReadyOut ready).outbound.behind (sent ++ more) = s.outbound.behind sent from
      s.outbound.behind_moved hall]
    exact h.tracks
  head hs := by
    rw [h.head hs] at hall
    exact (List.append_eq_nil_iff.mp hall).2

theorem processed (hled : Led s received written) (h : OutTracks z final s sent written)
    {result : Except String Unit} (hp : s.ProcessedOut z chunk t result)
    (hdirect : s.agreement = some none → s.rawOut = [] → s.outbound.headDone = false → chunk = [])
    (hfinal : t.agreement = none ∨ t.agreement = final)
    (haccepts : Accepts (nextOut z s.role) final {} total) (hle : written ++ chunk <+: total) :
    result = .ok () ∧ OutTracks z final t sent (written ++ chunk) := by
  have hnext := DeflateStream.rewritesFrames_nextOut (z := z) s.role
  obtain ⟨hok, htracks⟩ := Tracks.processed hnext h.tracks (hp.side.behind hnext sent) hdirect
    (hled.keepsOut hp) hfinal haccepts.fits haccepts.noError hle
  refine ⟨hok, ⟨?_, fun hs => ?_⟩⟩
  · rw [hp.role]
    exact htracks
  · obtain ⟨-, hside⟩ := hp.side.waits hs
    rw [hside] at hs ⊢
    exact h.head hs

/-- **A write, a flush or a shutdown keeps track.** -/
theorem writePassed (hled : Led s received written) (h : OutTracks z final s sent written)
    {pass : WritePass D I} (hpass : s.WritePassed z pass)
    (hfinal : pass.stream.agreement = none ∨ pass.stream.agreement = final)
    (haccepts : Accepts (nextOut z s.role) final {} total)
    (hle : written ++ pass.written <+: total) :
    OutTracks z final pass.stream (sent ++ pass.sent) (written ++ pass.written) := by
  cases hpass with
  | drains all =>
    rw [List.append_nil]
    exact h.drained all
  | @passes buf outcome declined none_waits =>
    have hnext := DeflateStream.rewritesFrames_nextOut (z := z) s.role
    have hempty := h.drained (List.append_nil s.outbound.ready)
    have htracks := hempty.tracks
    rw [show (s.withReadyOut []).rawOut = [] from none_waits] at htracks
    have hpassed := htracks.passes hnext declined (declined_final declined hfinal) buf
    refine ⟨?_, fun _ => rfl⟩
    show Tracks _ _ _ _ ((s.withReadyOut []).outbound.behind (sent ++ (s.outbound.ready ++ buf)))
      s.rawOut _
    rw [none_waits, ← List.append_assoc, Side.behind_passed _ _ rfl]
    exact hpassed
  | @writes sent₁ ready sent₂ ready₂ chunk t result outcome first notDirect processed second =>
    have hdrained := h.drained first
    have hdirect : s.agreement = some none → s.rawOut = [] → s.outbound.headDone = false →
        chunk = [] := by
      intro hagreed hraw hs
      refine notDirect hagreed hraw ?_
      rw [h.head hs] at first
      exact (List.append_eq_nil_iff.mp first).2
    have hled' := hled.withReady s.inbound.ready ready
    obtain ⟨-, hprocessed⟩ := hdrained.processed hled' processed hdirect hfinal haccepts hle
    have hall := hprocessed.drained second
    rw [List.append_assoc] at hall
    exact hall

/-- Reads leave the outbound direction. -/
theorem readPassed (hled : Led s received written) (h : OutTracks z final s sent written)
    {pass : ReadPass D I} (hpass : s.ReadPassed z pass) :
    OutTracks z final pass.stream sent written := by
  have hprocessed : ∀ {s t : DeflateStream D I} {received chunk : Bytes}
      {result : Except String Unit}, Led s received written → OutTracks z final s sent written →
      s.ProcessedIn z chunk t result → OutTracks z final t sent written := by
    intro s t received chunk result hled h hp
    refine ⟨?_, ?_⟩
    · rw [hp.role, hp.outbound, hp.rawOut]
      exact h.tracks.agreed (hled.keepsIn hp)
    · rw [hp.outbound]
      exact h.head
  cases hpass with
  | delivers room ready => exact ⟨h.tracks, h.head⟩
  | processes ready processed => exact hprocessed hled h processed
  | rejects ready processed => exact hprocessed hled h processed
  | passes ready processed => exact hprocessed hled h processed
  | reads ready processed nothing notDirect read =>
    exact hprocessed (hled.processedIn processed) (hprocessed hled h processed) read

end OutTracks

end Track

/-! ## Runs

The invariant holds at the start and every call keeps it, so it holds in every
run. -/

section Runs

variable {D I : Type} {z : Flate2 D I} {role : Role} {c c' : Connection D I} {calls calls' : List Call}

/-- What a call does. -/
theorem Connection.step_cases {call : Call} (h : c.step z call = some c') :
    (∃ pass, c.stream.ReadPassed z pass ∧ c' = c.afterRead pass)
      ∨ ∃ pass, c.stream.WritePassed z pass ∧ c' = c.afterWrite pass := by
  cases call with
  | read room answer =>
    exact Or.inl ⟨_, c.stream.readPass_spec room answer, (Option.some.inj h).symm⟩
  | write buf answers =>
    exact Or.inr ⟨_, c.stream.pollWrite_spec buf answers, (Option.some.inj h).symm⟩
  | flush answers => exact Or.inr ⟨_, c.stream.pollFlush_spec answers, (Option.some.inj h).symm⟩
  | shutdown answers =>
    exact Or.inr ⟨_, c.stream.pollShutdown_spec answers, (Option.some.inj h).symm⟩

theorem DeflateStream.ReadPassed.role_eq {s : DeflateStream D I} {pass : ReadPass D I}
    (h : s.ReadPassed z pass) : pass.stream.role = s.role := by
  cases h with
  | delivers room ready => rfl
  | processes ready processed => exact processed.role
  | rejects ready processed => exact processed.role
  | passes ready processed => exact processed.role
  | reads ready processed nothing notDirect read => exact read.role.trans processed.role

theorem DeflateStream.WritePassed.role_eq {s : DeflateStream D I} {pass : WritePass D I}
    (h : s.WritePassed z pass) : pass.stream.role = s.role := by
  cases h with
  | drains all => rfl
  | passes declined none_waits => rfl
  | writes first notDirect processed second => exact processed.role

/-- The agreement is the one in the response. -/
theorem Led.agreement (h : Led c.stream c.received c.written) :
    c.stream.agreement = responseAgreement c.response := by
  unfold Connection.response
  cases hrole : c.stream.role with
  | client => exact (h.inbound (by rw [hrole]; rfl)).agreed
  | server => exact (h.outbound (by rw [hrole]; rfl)).agreed

theorem Connection.step_led {call : Call} (h : c.step z call = some c')
    (hled : Led c.stream c.received c.written) :
    c'.stream.role = c.stream.role ∧ Led c'.stream c'.received c'.written := by
  rcases Connection.step_cases h with ⟨pass, hpass, rfl⟩ | ⟨pass, hpass, rfl⟩
  · rw [Connection.received_afterRead]
    exact ⟨hpass.role_eq, hled.readPassed hpass⟩
  · exact ⟨hpass.role_eq, hled.writePassed hpass⟩

/-- At the start, neither head has passed. -/
theorem led_new : Led (Connection.new z role).stream [] [] :=
  ⟨fun _ => ⟨rfl, rfl, fun _ => rfl⟩, fun _ => ⟨rfl, rfl, fun _ => rfl⟩⟩

/-- **The agreement of a run is the one in the response.** -/
theorem run_led (hrun : Machine.run (Connection.step z) (.new z role) calls = some c) :
    c.stream.role = role ∧ Led c.stream c.received c.written := by
  refine Machine.run_inv (P := fun c => c.stream.role = role ∧ Led c.stream c.received c.written)
    ?_ ⟨rfl, led_new⟩ hrun
  rintro c c' call ⟨rfl, hled⟩ hstep
  exact Connection.step_led hstep hled

/-- A call adds to what went through the connection. -/
theorem Connection.step_mono {call : Call} (h : c.step z call = some c') :
    c.received <+: c'.received ∧ c.written <+: c'.written := by
  rcases Connection.step_cases h with ⟨pass, -, rfl⟩ | ⟨pass, -, rfl⟩
  · rw [Connection.received_afterRead]
    exact ⟨List.prefix_append _ _, List.prefix_refl _⟩
  · exact ⟨List.prefix_refl _, List.prefix_append _ _⟩

/-- An agreement that is known stays. -/
theorem Connection.step_keeps {call : Call} (h : c.step z call = some c')
    (hled : Led c.stream c.received c.written) (hled' : Led c'.stream c'.received c'.written)
    (hrole : c'.stream.role = c.stream.role) {agreed : Option Params}
    (hagreed : c.stream.agreement = some agreed) : c'.stream.agreement = some agreed := by
  obtain ⟨hreceived, hwritten⟩ := Connection.step_mono h
  have hresponse : c.response <+: c'.response := by
    unfold Connection.response
    rw [hrole]
    cases c.stream.role with
    | client => exact hreceived
    | server => exact hwritten
  obtain ⟨more, hmore⟩ := hresponse
  rw [hled.agreement] at hagreed
  rw [hled'.agreement, ← hmore, responseAgreement_append hagreed more]

/-- **Both directions of a run keep track**, each as long as the stream it comes
to is accepted. -/
theorem run_tracks (hrun : Machine.run (Connection.step z) (.new z role) calls = some c)
    (final : Option (Option Params)) (totalIn totalOut : Bytes)
    (hfinal : c.stream.agreement = none ∨ c.stream.agreement = final) :
    (Accepts (nextIn z role) final { inflater := z.newInflater } totalIn → c.received <+: totalIn →
      InTracks z final c.stream c.delivered c.received)
    ∧ (Accepts (nextOut z role) final {} totalOut → c.written <+: totalOut →
      OutTracks z final c.stream c.sent c.written) := by
  let tracked (c : Connection D I) : Prop := c.stream.role = role
    ∧ Led c.stream c.received c.written
    ∧ ((c.stream.agreement = none ∨ c.stream.agreement = final) →
      (Accepts (nextIn z role) final { inflater := z.newInflater } totalIn →
        c.received <+: totalIn → InTracks z final c.stream c.delivered c.received)
      ∧ (Accepts (nextOut z role) final {} totalOut → c.written <+: totalOut →
        OutTracks z final c.stream c.sent c.written))
  suffices h : tracked c from h.2.2 hfinal
  refine Machine.run_inv (P := tracked) ?_ ?_ hrun
  · rintro c c' call ⟨rfl, hled, htracks⟩ hstep
    obtain ⟨hreceived, hwritten⟩ := Connection.step_mono hstep
    obtain ⟨hrole, hled'⟩ := Connection.step_led hstep hled
    refine ⟨hrole, hled', fun hfinal => ?_⟩
    have hbefore := onTheWay (Connection.step_keeps hstep hled hled' hrole) hfinal
    obtain ⟨hin, hout⟩ := htracks hbefore
    rcases Connection.step_cases hstep with ⟨pass, hpass, rfl⟩ | ⟨pass, hpass, rfl⟩
    · refine ⟨fun haccepts hle => ?_, fun haccepts hle => ?_⟩
      · have hbefore := hin haccepts (hreceived.trans hle)
        rw [Connection.received_afterRead] at hle ⊢
        exact hbefore.readPassed hled hpass hfinal haccepts hle
      · exact (hout haccepts hle).readPassed hled hpass
    · refine ⟨fun haccepts hle => ?_, fun haccepts hle => ?_⟩
      · exact (hin haccepts hle).writePassed hled hpass
      · exact (hout haccepts (hwritten.trans hle)).writePassed hled hpass hfinal haccepts hle
  · exact ⟨rfl, led_new, fun _ => ⟨fun _ _ => .start, fun _ _ => ⟨.start, fun _ => rfl⟩⟩⟩

/-! ## The end of a run

A scan that can go no further has done all that the bytes allow. -/

/-- A read finds nothing to do and waits for the connection. -/
def ReadWaits (z : Flate2 D I) (s : DeflateStream D I) : Prop :=
  s.readPass z 1 .pending = { stream := s, outcome := .pending }

/-- A flush finds nothing to do. -/
def FlushDone (z : Flate2 D I) (s : DeflateStream D I) : Prop :=
  s.pollFlush z [] = { stream := s, outcome := .done 0 }

instance [DecidableEq D] [DecidableEq I] (s : DeflateStream D I) : Decidable (ReadWaits z s) := by
  unfold ReadWaits
  infer_instance

instance [DecidableEq D] [DecidableEq I] (s : DeflateStream D I) : Decidable (FlushDone z s) := by
  unfold FlushDone
  infer_instance

/-- The end of a call that succeeds and changes nothing. -/
theorem Processed.idle {C : Type} {next : Params → Side C → Bytes → Next (Side C) String}
    {agreement : Option (Option Params)} {side : Side C} {raw : Bytes}
    (h : Processed next agreement side raw side raw (.ok ())) :
    scan (nextSide next agreement) side raw = ⟨side, raw, none⟩ := by
  cases h with
  | rewritten scanned => exact scanned

theorem ReadWaits.idle {s : DeflateStream D I} (h : ReadWaits z s) :
    s.inbound.ready = []
      ∧ scan (nextSide (nextIn z s.role) s.agreement) s.inbound s.rawIn
        = ⟨s.inbound, s.rawIn, none⟩ := by
  have hpass := s.readPass_spec (z := z) 1 .pending
  unfold ReadWaits at h
  generalize s.readPass z 1 .pending = pass at h hpass
  cases hpass with
  | delivers room ready => cases congrArg ReadPass.outcome h
  | @processes t outcome ready processed =>
    obtain rfl : t = s := congrArg ReadPass.stream h
    have hprocessed := processed.side.processed
    rw [List.append_nil] at hprocessed
    exact ⟨ready, hprocessed.idle⟩
  | rejects ready processed => cases congrArg ReadPass.outcome h
  | passes ready processed declined none_waits nothing bytes =>
    cases congrArg ReadPass.outcome h
  | @reads t u chunk result ready processed nothing notDirect read =>
    have houtcome := congrArg ReadPass.outcome h
    cases result <;> cases houtcome

theorem FlushDone.idle {s : DeflateStream D I} (h : FlushDone z s) :
    s.outbound.ready = []
      ∧ scan (nextSide (nextOut z s.role) s.agreement) s.outbound s.rawOut
        = ⟨s.outbound, s.rawOut, none⟩ := by
  have hprocessed := s.processOut_spec (z := z)
  unfold FlushDone DeflateStream.pollFlush at h
  generalize s.processOut z = r at h hprocessed
  obtain ⟨t, result⟩ := r
  cases result with
  | error error => cases congrArg WritePass.outcome h
  | ok _ =>
    have houtcome := congrArg WritePass.outcome h
    have hstream := congrArg WritePass.stream h
    have hready : t.outbound.ready = [] := by
      cases hready : t.outbound.ready with
      | nil => rfl
      | cons b rest =>
        dsimp only at houtcome
        rw [hready] at houtcome
        cases houtcome
    dsimp only at hstream
    rw [hready] at hstream
    have hsame : t.withReadyOut [] = t := by
      unfold DeflateStream.withReadyOut
      rw [← hready]
    obtain rfl : t = s := hsame.symm.trans hstream
    have hprocessed := hprocessed.side.processed
    rw [List.append_nil] at hprocessed
    exact ⟨hready, hprocessed.idle⟩

/-- **What was delivered is what the scan of all bytes makes of them**, when a
read has nothing left to do. -/
theorem run_delivered (hrun : Machine.run (Connection.step z) (.new z role) calls = some c)
    (haccepts : Accepts (nextIn z role) (responseAgreement c.response)
      { inflater := z.newInflater } c.received) (hwaits : ReadWaits z c.stream) :
    c.delivered = (scan (nextSide (nextIn z role) (responseAgreement c.response))
        { codec := { inflater := z.newInflater } } c.received).state.ready
      ∧ c.stream.inbound.codec = (scan (nextSide (nextIn z role) (responseAgreement c.response))
        { codec := { inflater := z.newInflater } } c.received).state.codec := by
  obtain ⟨rfl, hled⟩ := run_led hrun
  have hagreed := hled.agreement
  obtain ⟨htracks, -⟩ := run_tracks hrun _ c.received c.written (Or.inr hagreed)
  obtain ⟨hready, hidle⟩ := hwaits.idle
  have hnext := DeflateStream.rewritesFrames_nextIn (z := z) c.stream.role
  have hbehind := scan_behind hnext (responseAgreement c.response) c.delivered c.stream.inbound
    c.stream.rawIn
  rw [← hagreed, hidle, hagreed] at hbehind
  obtain ⟨hcodec, hall, -⟩ := (htracks haccepts (List.prefix_refl _)).settled hnext hagreed
    haccepts.fits hbehind
  rw [hall, hcodec, Side.behind_ready, hready, List.append_nil]
  exact ⟨rfl, rfl⟩

/-- **What was sent is what the scan of all bytes makes of them**, when a flush
has nothing left to do: of all bytes but those that wait, each once. -/
theorem run_sent (hrun : Machine.run (Connection.step z) (.new z role) calls = some c)
    (haccepts : Accepts (nextOut z role) (responseAgreement c.response) {} c.written)
    (hdone : FlushDone z c.stream) :
    c.sent = (scan (nextSide (nextOut z role) (responseAgreement c.response))
        { codec := {} } c.written).state.ready
      ∧ c.stream.outbound.codec = (scan (nextSide (nextOut z role) (responseAgreement c.response))
        { codec := {} } c.written).state.codec
      ∧ ∃ used, c.written = used ++ c.stream.rawOut
        ∧ ∃ state, scan (nextSide (nextOut z role) (responseAgreement c.response))
            { codec := {} } used = ⟨state, [], none⟩ ∧ state.ready = c.sent := by
  obtain ⟨rfl, hled⟩ := run_led hrun
  have hagreed := hled.agreement
  obtain ⟨-, htracks⟩ := run_tracks hrun _ c.received c.written (Or.inr hagreed)
  obtain ⟨hready, hidle⟩ := hdone.idle
  have hnext := DeflateStream.rewritesFrames_nextOut (z := z) c.stream.role
  have hbehind := scan_behind hnext (responseAgreement c.response) c.sent c.stream.outbound
    c.stream.rawOut
  rw [← hagreed, hidle, hagreed] at hbehind
  obtain ⟨hcodec, hall, hrest⟩ := (htracks haccepts (List.prefix_refl _)).tracks.settled hnext
    hagreed haccepts.fits hbehind
  rw [Side.behind_ready, hready, List.append_nil] at hall
  refine ⟨hall.symm, hcodec.symm, ?_⟩
  have herror := haccepts.noError
  generalize hscan : scan (nextSide (nextOut z c.stream.role) (responseAgreement c.response))
    { codec := {} } c.written = finish at hall hrest herror
  obtain ⟨state, rest, error⟩ := finish
  obtain rfl : error = none := herror
  obtain rfl : rest = c.stream.rawOut := hrest
  obtain ⟨used, hused, hscan⟩ := scan_used (nextSide_progresses hnext _) (nextSide_steady hnext _)
    (nextSide_exact hnext _) hscan
  exact ⟨used, hused, state, hscan, hall⟩

/-- **How the bytes are cut does not matter.** Two connections with the same
response head, in any runs: when the same bytes arrived, which the layer
accepts, and a read has nothing left to do, the reads returned the same bytes
and left the same inflater and counters; when the caller wrote the same bytes,
which the layer accepts, and a flush has nothing left to do, the connection
took the same bytes, with the same deflater and counters, and these are the
rewriting of all bytes but those that still wait, each taken once. -/
theorem chunking_does_not_matter
    (hrun : Machine.run (Connection.step z) (.new z role) calls = some c)
    (hrun' : Machine.run (Connection.step z) (.new z role) calls' = some c')
    (hresponse : headOf c.response = headOf c'.response) :
    (c.received = c'.received →
      Accepts (nextIn z role) (responseAgreement c.response) { inflater := z.newInflater }
        c.received →
      ReadWaits z c.stream → ReadWaits z c'.stream →
        c.delivered = c'.delivered ∧ c.stream.inbound.codec = c'.stream.inbound.codec)
    ∧ (c.written = c'.written →
      Accepts (nextOut z role) (responseAgreement c.response) {} c.written →
      FlushDone z c.stream → FlushDone z c'.stream →
        c.sent = c'.sent ∧ c.stream.outbound.codec = c'.stream.outbound.codec
          ∧ ∃ used, c.written = used ++ c.stream.rawOut
            ∧ ∃ state, scan (nextSide (nextOut z role) (responseAgreement c.response))
                { codec := {} } used = ⟨state, [], none⟩ ∧ state.ready = c.sent) := by
  have hagreement : responseAgreement c.response = responseAgreement c'.response := by
    unfold responseAgreement
    rw [hresponse]
  refine ⟨fun hreceived haccepts hwaits hwaits' => ?_, fun hwritten haccepts hdone hdone' => ?_⟩
  · obtain ⟨hdelivered, hcodec⟩ := run_delivered hrun haccepts hwaits
    rw [hagreement, hreceived] at haccepts hdelivered hcodec
    obtain ⟨hdelivered', hcodec'⟩ := run_delivered hrun' haccepts hwaits'
    exact ⟨hdelivered.trans hdelivered'.symm, hcodec.trans hcodec'.symm⟩
  · obtain ⟨hsent, hcodec, hused⟩ := run_sent hrun haccepts hdone
    have haccepts' := haccepts
    rw [hagreement, hwritten] at haccepts' hsent hcodec
    obtain ⟨hsent', hcodec', -⟩ := run_sent hrun' haccepts' hdone'
    exact ⟨hsent.trans hsent'.symm, hcodec.trans hcodec'.symm, hused⟩

end Runs

/-! Two runs of a client over the same bytes: a handshake that agrees on
compression, a text in one frame that is not compressed, and a close frame. -/

/-- A library that compresses nothing, for frames that are not compressed. -/
def noFlate : Flate2 Unit Unit where
  newDeflater := ()
  resetDeflater := id
  compressVec _ _ _ := none
  newInflater := ()
  resetInflater := id
  decompressVec _ _ _ := none
  reserve _ length more := length + more

/-- The request, -/
def requestBytes : Bytes := "GET / HTTP/1.1\r\n\r\n".toUTF8.data.toList

/-- the response that agrees, -/
def agreedHead : Bytes :=
  "HTTP/1.1 101 x\r\nSec-WebSocket-Extensions: permessage-deflate\r\n\r\n".toUTF8.data.toList

/-- with a text behind it, -/
def agreedBytes : Bytes := agreedHead ++ [0x81, 1, 65]

/-- and the close. -/
def closeFrame : Bytes := [0x88, 0x80, 1, 2, 3, 4]

/-- Everything in one piece. -/
def wholeCalls : List Call :=
  [.write requestBytes [.took 100], .read 100 (.data agreedBytes), .read 100 .pending,
    .write closeFrame [.took 100]]

/-- In pieces, with cuts in the heads and in the frames. -/
def cutCalls : List Call :=
  [.write (requestBytes.take 5) [], .write (requestBytes.drop 5) [.took 3, .pending],
    .write (closeFrame.take 1) [.took 15], .read 7 (.data (agreedBytes.take 30)),
    .read 7 (.data ((agreedBytes.drop 30).take 34)), .read 7 .pending,
    .read 100 .pending, .write (closeFrame.drop 1) [], .read 1 (.data (agreedBytes.drop 64)),
    .read 2 .pending, .read 1 .pending, .flush [.took 1, .took 6]]

/-- What the two runs come to. -/
def CameTo (c : Connection Unit Unit) : Prop :=
  c.stream.role = .client ∧ c.received = agreedBytes ∧ c.written = requestBytes ++ closeFrame
    ∧ ReadWaits noFlate c.stream ∧ FlushDone noFlate c.stream

instance (c : Connection Unit Unit) : Decidable (CameTo c) := by
  unfold CameTo
  infer_instance

theorem accepts_agreedBytes : Accepts (nextIn noFlate .client) (responseAgreement agreedBytes)
    { inflater := noFlate.newInflater } agreedBytes :=
  ⟨by decide +kernel, by decide +kernel⟩

theorem accepts_written : Accepts (nextOut noFlate .client) (responseAgreement agreedBytes) {}
    (requestBytes ++ closeFrame) :=
  ⟨by decide +kernel, by decide +kernel⟩

theorem cut_as_whole : ∃ c c' : Connection Unit Unit,
    Machine.run (Connection.step noFlate) (.new noFlate .client) wholeCalls = some c
      ∧ Machine.run (Connection.step noFlate) (.new noFlate .client) cutCalls = some c'
      ∧ c.delivered = c'.delivered ∧ c.sent = c'.sent := by
  have hcame : ∀ calls, (Machine.run (Connection.step noFlate) (.new noFlate .client) calls).map
        (fun c => decide (CameTo c)) = some true →
      ∃ c, Machine.run (Connection.step noFlate) (.new noFlate .client) calls = some c
        ∧ CameTo c := by
    intro calls h
    obtain ⟨c, hrun, hcame⟩ := Option.map_eq_some_iff.mp h
    exact ⟨c, hrun, of_decide_eq_true hcame⟩
  obtain ⟨c, hrun, hrole, hreceived, hwritten, hwaits, hdone⟩ := hcame wholeCalls (by decide +kernel)
  obtain ⟨c', hrun', hrole', hreceived', hwritten', hwaits', hdone'⟩ :=
    hcame cutCalls (by decide +kernel)
  have hresponse : ∀ c : Connection Unit Unit, c.stream.role = .client → c.received = agreedBytes →
      c.response = agreedBytes := by
    intro c hrole hreceived
    unfold Connection.response
    rw [hrole]
    exact hreceived
  have hhead := hresponse c hrole hreceived
  obtain ⟨hin, hout⟩ := chunking_does_not_matter hrun hrun'
    (by rw [hhead, hresponse c' hrole' hreceived'])
  rw [hhead, hreceived] at hin
  rw [hhead, hwritten] at hout
  obtain ⟨hdelivered, -⟩ := hin hreceived'.symm accepts_agreedBytes hwaits hwaits'
  obtain ⟨hsent, -⟩ := hout hwritten'.symm accepts_written hdone hdone'
  exact ⟨c, c', hrun, hrun', hdelivered, hsent⟩

end WsBlast
