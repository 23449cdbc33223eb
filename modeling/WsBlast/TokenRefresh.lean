import WsBlast.RefreshLoop

/-!
# Tokens are replaced before they expire

A JWT is signed with whole seconds: its `exp` is the truncated clock plus the
truncated lifetime, while the refresh is a fraction of the exact lifetime
before `exp`, and at least `minRefreshDelay` away. From `minTtl` on the
truncated seconds still leave the margin and more, so the delay never meets
its floor (`Jwt.refreshDelay_signedAt`). An OAuth2 token says how long it
lasts, and is replaced a margin before that, or after a second.

When refreshes succeed at once and waits end on time (`Prompt`), the thread
is always at a known distance from the last refresh (`Punctual`).

Clocks are rational numbers of seconds here, so nothing is rounded but what the
source rounds. It truncates twice when it signs a token, the present and the
lifetime, and each may cost almost a second. `minTtl` is the shortest lifetime
the command line accepts, and it is long enough that the margin is kept in
spite of both.
-/

namespace WsBlast

/-! ## Refreshes without delay

Runs in which every refresh succeeds when it is due. -/

namespace RefreshState

variable {V : Type}

/-- Steps in which a refresh succeeds at once, with something `issue` allows
at that moment, and a wait ends on time. -/
def Prompt (issue : ℚ → V × Option ℚ → Prop) (s : RefreshState V) : RefreshAction V → Prop
  | .pass time =>
    match s.thread with
    | .waiting since wait => s.clock + time ≤ since + wait
    | .refreshing => time = 0
    | .ended => True
  | .timeout => True
  | .refreshed (.ok result) => issue s.clock result
  | .refreshed (.error _) => False
  | .dropGuard => False
  | .disconnected => False

/-- The thread is at a known distance from the refresh that gave the header
its value. -/
inductive Punctual (issue : ℚ → V × Option ℚ → Prop) (s : RefreshState V) : Prop
  | waiting {since wait : ℚ} (hthread : s.thread = .waiting since wait)
    (hissue : issue since (s.header, some wait)) (hclock : s.clock ≤ since + wait)
  | refreshing {since wait : ℚ} (hthread : s.thread = .refreshing)
    (hissue : issue since (s.header, some wait)) (hclock : s.clock = since + wait)
  | ended {since : ℚ} (hthread : s.thread = .ended) (hissue : issue since (s.header, none))

variable {issue : ℚ → V × Option ℚ → Prop} {retry : ℚ} {s t : RefreshState V}
  {a : RefreshAction V} {actions : List (RefreshAction V)}

theorem Punctual.step (hissue : ∀ {now value wait}, issue now (value, some wait) → 0 ≤ wait)
    (hs : s.Punctual issue) (ha : s.Prompt issue a) (h : RefreshState.step retry s a = some t) :
    t.Punctual issue := by
  cases moves_of_step h with
  | pass hpos =>
    unfold Prompt at ha
    cases hs with
    | waiting hthread hgave hclock =>
      rw [hthread] at ha
      exact .waiting hthread hgave ha
    | refreshing hthread hgave hclock =>
      rw [hthread] at ha
      -- a refresh takes no time
      obtain rfl : _ = (0 : ℚ) := ha
      exact .refreshing hthread hgave ((add_zero _).trans hclock)
    | ended hthread hgave => exact .ended hthread hgave
  | dropGuard => exact absurd ha id
  | timeout hthread hheld hdue =>
    cases hs with
    | waiting hwaits hgave hclock =>
      obtain ⟨rfl, rfl⟩ := RefreshThread.waiting.inj (hthread.symm.trans hwaits)
      exact .refreshing rfl hgave (le_antisymm hclock hdue)
    | refreshing hbusy => exact absurd (hthread.symm.trans hbusy) nofun
    | ended hended => exact absurd (hthread.symm.trans hended) nofun
  | disconnected => exact absurd ha id
  | succeeded hthread =>
    rename_i value next
    cases next with
    | none => exact .ended rfl ha
    | some next => exact .waiting rfl ha (le_add_of_nonneg_right (hissue ha))
  | failed => exact absurd ha id

/-- Such steps leave the guard alone. -/
theorem Prompt.guard (ha : s.Prompt issue a) (h : RefreshState.step retry s a = some t) :
    t.guardHeld = s.guardHeld := by
  cases moves_of_step h with
  | dropGuard => exact absurd ha id
  | _ => rfl

/-- **The thread is on time throughout a prompt run.** -/
theorem punctual_run (hissue : ∀ {now value wait}, issue now (value, some wait) → 0 ≤ wait)
    (hs : s.Punctual issue ∧ s.guardHeld = true)
    (hprompt : Machine.Throughout (RefreshState.step retry) (Prompt issue) s actions)
    (hrun : Machine.run (RefreshState.step retry) s actions = some t) :
    t.Punctual issue ∧ t.guardHeld = true := by
  refine Machine.Throughout.run_inv (P := fun s => s.Punctual issue ∧ s.guardHeld = true) ?_ hs
    hprompt hrun
  intro s t a hs ha h
  exact ⟨hs.1.step hissue ha h, (ha.guard h).trans hs.2⟩

/-- A refresh can end where one is in progress. -/
theorem refresh_now (hthread : s.thread = .refreshing) {result : V × Option ℚ}
    (hresult : issue s.clock result) : ∃ t,
      Machine.Throughout (RefreshState.step retry) (Prompt issue) s [.refreshed (.ok result)]
        ∧ Machine.run (RefreshState.step retry) s [.refreshed (.ok result)] = some t
        ∧ t.header = result.1 ∧ t.clock = s.clock := by
  obtain ⟨value, next⟩ := result
  have hstep : ∃ t, RefreshState.step retry s (.refreshed (.ok (value, next))) = some t := by
    unfold RefreshState.step
    rw [hthread]
    cases next with
    | none => exact ⟨_, rfl⟩
    | some next => exact ⟨_, rfl⟩
  obtain ⟨t, ht⟩ := hstep
  refine ⟨t, (Machine.Throughout.cons ht).mpr ⟨hresult, trivial⟩,
    Machine.run_cons.mpr ⟨t, ht, rfl⟩, header_step ht, ?_⟩
  cases moves_of_step ht
  rfl

/-- **The next refresh comes** when the wait that the last one gave is
over. -/
theorem Punctual.next (hs : s.Punctual issue) (hheld : s.guardHeld = true)
    (halive : s.thread ≠ .ended) : ∃ since wait, issue since (s.header, some wait)
      ∧ ∀ result, issue (since + wait) result → ∃ more t,
        Machine.Throughout (RefreshState.step retry) (Prompt issue) s more
          ∧ Machine.run (RefreshState.step retry) s more = some t
          ∧ t.header = result.1 ∧ t.clock = since + wait := by
  cases hs with
  | @waiting since wait hthread hgave hclock =>
    refine ⟨since, wait, hgave, fun result hresult => ?_⟩
    -- let the rest of the wait pass, then wake
    have hpass : RefreshState.step retry s (.pass (since + wait - s.clock))
        = some { s with clock := since + wait } := by
      show (if 0 ≤ since + wait - s.clock then _ else none) = _
      rw [if_pos (sub_nonneg.mpr hclock), add_sub_cancel]
    have hwake : RefreshState.step retry { s with clock := since + wait } .timeout
        = some { s with clock := since + wait, thread := .refreshing } := by
      unfold RefreshState.step
      dsimp only
      rw [hthread]
      exact if_pos ⟨hheld, le_refl _⟩
    have hprompt : s.Prompt issue (.pass (since + wait - s.clock)) := by
      unfold Prompt
      rw [hthread]
      exact (add_sub_cancel s.clock (since + wait)).le
    obtain ⟨t, hthrough, hrun, hheader, htime⟩ :=
      @refresh_now V issue retry { s with clock := since + wait, thread := .refreshing } rfl result
        hresult
    exact ⟨_, t,
      (Machine.Throughout.cons hpass).mpr
        ⟨hprompt, (Machine.Throughout.cons hwake).mpr ⟨trivial, hthrough⟩⟩,
      Machine.run_cons.mpr ⟨_, hpass, Machine.run_cons.mpr ⟨_, hwake, hrun⟩⟩, hheader, htime⟩
  | @refreshing since wait hthread hgave hclock =>
    refine ⟨since, wait, hgave, fun result hresult => ?_⟩
    rw [← hclock] at hresult
    obtain ⟨t, hthrough, hrun, hheader, htime⟩ := refresh_now hthread hresult
    exact ⟨_, t, hthrough, hrun, hheader, htime.trans hclock⟩
  | ended hthread => exact absurd hthread halive

end RefreshState

/-! ## JWTs

What one signing writes, and when the next one is due. -/

/-- The times a JWT says, and the moment it was signed. -/
structure JwtToken where
  signed : ℚ
  iat : ℕ
  nbf : ℕ
  exp : ℕ
  deriving DecidableEq, Repr

namespace Jwt

/-- Shortest `--auth-jwt-ttl`. -/
def minTtl : ℚ := 2

/-- Shortest time between two signings. -/
def minRefreshDelay : ℚ := 1 / 10

/-- Time until a failed signing is tried again. -/
def retryDelay : ℚ := 1

/-- The wall clock in whole seconds; 0 before 1970. -/
def unixNow (now : ℚ) : ℕ := ⌊now⌋₊

/-- Signs a token at the moment `now`. -/
def signAt (ttl now : ℚ) : JwtToken where
  signed := now
  iat := unixNow now
  nbf := unixNow now
  exp := unixNow now + ⌊ttl⌋₊

/-- Time from `now` until a token that expires at `expires` is replaced. -/
def refreshDelay (expires : ℕ) (ttl now : ℚ) : ℚ :=
  let replaceAt := expires - refreshMargin ttl
  max (max (replaceAt - now) 0) minRefreshDelay

/-- What one signing gives: the token, and the time until the next one. -/
def sign (ttl now : ℚ) : JwtToken × Option ℚ :=
  let token := signAt ttl now
  (token, some (refreshDelay token.exp ttl now))

/-- The thread that re-signs a shared token, started at `now`. -/
def prepare (ttl now : ℚ) : RefreshState JwtToken :=
  let token := signAt ttl now
  .start token (refreshDelay token.exp ttl now) now

variable {ttl now : ℚ}

/-- **The floor of the delay is out of reach**: a fifth of the lifetime, at
most a minute, is left of a token's whole seconds. -/
theorem lt_replaceAt (httl : minTtl ≤ ttl) :
    now + minRefreshDelay < (signAt ttl now).exp - refreshMargin ttl := by
  have hclock : now < unixNow now + 1 := Nat.lt_floor_add_one now
  have hlife : ttl < (⌊ttl⌋₊ : ℚ) + 1 := Nat.lt_floor_add_one ttl
  have htwo : (2 : ℚ) ≤ ⌊ttl⌋₊ := by
    have hfloor : 2 ≤ ⌊ttl⌋₊ := Nat.le_floor (by exact_mod_cast httl)
    exact_mod_cast hfloor
  have hmargin : refreshMargin ttl ≤ ttl / 5 := min_le_left _ _
  have hexp : ((signAt ttl now).exp : ℚ) = unixNow now + ⌊ttl⌋₊ := by
    simp [signAt]
  rw [hexp, minRefreshDelay]
  linarith

/-- The delay ends a margin before the token expires. -/
theorem refreshDelay_signAt (httl : minTtl ≤ ttl) :
    refreshDelay (signAt ttl now).exp ttl now
      = (signAt ttl now).exp - refreshMargin ttl - now := by
  have hlt := @lt_replaceAt ttl now httl
  have hmin : (0 : ℚ) ≤ minRefreshDelay := by
    unfold minRefreshDelay
    norm_num
  unfold refreshDelay
  rw [max_eq_left (le_max_of_le_left (by linarith)), max_eq_left (by linarith)]

/-- What a signing gives at some moment. -/
def Signed (ttl now : ℚ) (result : JwtToken × Option ℚ) : Prop := result = sign ttl now

/-- How a thread that re-signs a token stands to the token in the header. -/
structure Current (ttl : ℚ) (s : RefreshState JwtToken) : Prop where
  /-- The token is valid. -/
  valid : s.clock < s.header.exp
  /-- The thread waits from the signing until a margin before `exp`, and not
  too briefly. -/
  waits : ∀ since wait, s.thread = .waiting since wait → since = s.header.signed
    ∧ minRefreshDelay ≤ wait ∧ since + wait = s.header.exp - refreshMargin ttl
  /-- That is when the token is replaced. -/
  replaced : s.thread = .refreshing → s.clock = s.header.exp - refreshMargin ttl
    ∧ s.header.signed + minRefreshDelay ≤ s.clock
  alive : s.thread ≠ .ended

/-- A token signed at `since` says when the wait after it is over. -/
theorem wait_of_signed (httl : minTtl ≤ ttl) {since wait : ℚ} {token : JwtToken}
    (h : Signed ttl since (token, some wait)) : since = token.signed ∧ minRefreshDelay ≤ wait
      ∧ since + wait = token.exp - refreshMargin ttl := by
  obtain ⟨rfl, hwait⟩ := Prod.mk.inj h
  obtain rfl := Option.some.inj hwait
  refine ⟨rfl, le_max_right _ _, ?_⟩
  rw [refreshDelay_signAt httl, add_sub_cancel]

theorem current_of_punctual (httl : minTtl ≤ ttl) {s : RefreshState JwtToken}
    (hs : s.Punctual (Signed ttl)) : Current ttl s := by
  have hmargin : 0 < refreshMargin ttl :=
    refreshMargin_pos (lt_of_lt_of_le (by norm_num [minTtl]) httl)
  cases hs with
  | waiting hthread hsigned hclock =>
    obtain ⟨hsince, hmin, hover⟩ := wait_of_signed httl hsigned
    refine { valid := by linarith, waits := ?_, replaced := ?_, alive := ?_ }
    · intro since' wait' hthread'
      obtain ⟨rfl, rfl⟩ := RefreshThread.waiting.inj (hthread.symm.trans hthread')
      exact ⟨hsince, hmin, hover⟩
    · exact fun hbusy => absurd (hthread.symm.trans hbusy) nofun
    · exact fun hended => absurd (hthread.symm.trans hended) nofun
  | refreshing hthread hsigned hclock =>
    obtain ⟨hsince, hmin, hover⟩ := wait_of_signed httl hsigned
    refine { valid := by linarith, waits := ?_, replaced := ?_, alive := ?_ }
    · exact fun since' wait' hwaits => absurd (hthread.symm.trans hwaits) nofun
    · exact fun _ => ⟨hclock.trans hover, by linarith⟩
    · exact fun hended => absurd (hthread.symm.trans hended) nofun
  | ended hthread hsigned => exact absurd (Prod.mk.inj hsigned).2 nofun

/-- The token in use is valid, and the next one is signed a margin before it
expires. -/
structure Renewed (ttl : ℚ) (s : RefreshState JwtToken) : Prop where
  current : Current ttl s
  next : ∃ more t,
    Machine.Throughout (RefreshState.step retryDelay) (RefreshState.Prompt (Signed ttl)) s more
      ∧ Machine.run (RefreshState.step retryDelay) s more = some t
      ∧ t.header.signed = s.header.exp - refreshMargin ttl

/-- **A re-signed token is always valid**, and is replaced a margin before it
expires. -/
theorem renewed_run (httl : minTtl ≤ ttl) {start : ℚ} {actions : List (RefreshAction JwtToken)}
    {s : RefreshState JwtToken}
    (hprompt : Machine.Throughout (RefreshState.step retryDelay)
      (RefreshState.Prompt (Signed ttl)) (prepare ttl start) actions)
    (hrun : Machine.run (RefreshState.step retryDelay) (prepare ttl start) actions = some s) :
    Renewed ttl s := by
  have hwait : ∀ {now value wait}, Signed ttl now (value, some wait) → 0 ≤ wait := by
    intro now value wait hsigned
    exact le_trans (by norm_num [minRefreshDelay]) (wait_of_signed httl hsigned).2.1
  have hfirst : (prepare ttl start).Punctual (Signed ttl) :=
    .waiting rfl rfl (le_add_of_nonneg_right (hwait (show Signed ttl start (_, some _) from rfl)))
  obtain ⟨hpunctual, hheld⟩ := RefreshState.punctual_run hwait ⟨hfirst, rfl⟩ hprompt hrun
  have hcurrent := current_of_punctual httl hpunctual
  refine ⟨hcurrent, ?_⟩
  obtain ⟨since, wait, hsigned, hnext⟩ := hpunctual.next hheld hcurrent.alive
  obtain ⟨more, t, hmore, ht, hheader, -⟩ := hnext (sign ttl (since + wait)) rfl
  refine ⟨more, t, hmore, ht, ?_⟩
  rw [hheader]
  exact (wait_of_signed httl hsigned).2.2

end Jwt

/-! ## OAuth2 tokens

Tokens with a lifetime of their own, or with none. -/

/-- A token of an OAuth2 server, with its lifetime when the server says one,
and the moment it was received. -/
structure OAuth2Token where
  received : ℚ
  expiresIn : Option ℚ
  deriving DecidableEq, Repr

namespace OAuth2

/-- Shortest time between two requests. -/
def minRefreshDelay : ℚ := 1

/-- Longest time until a failed request is tried again. -/
def retryDelay : ℚ := 5

/-- Time from receiving a token valid for `expiresIn` until it is
replaced. -/
def refreshDelay (expiresIn : ℚ) : ℚ := max (expiresIn - refreshMargin expiresIn) minRefreshDelay

/-- What a request at `now` gives: a token, and the time until the next
request unless the token does not expire. -/
def Fetched (now : ℚ) (result : OAuth2Token × Option ℚ) : Prop :=
  result.1.received = now ∧ result.2 = result.1.expiresIn.map refreshDelay

/-- The thread that holds a first token; a token that does not expire is used
for the whole run. -/
def prepare (token : OAuth2Token) : RefreshState OAuth2Token :=
  match token.expiresIn with
  | some expiresIn => .start token (refreshDelay expiresIn) token.received
  | none => { clock := token.received, thread := .ended, header := token }

/-- Time until a failed request is tried again. -/
def retryAfter (token : OAuth2Token) : ℚ :=
  token.expiresIn.elim retryDelay fun expiresIn => min retryDelay (refreshDelay expiresIn)

theorem minRefreshDelay_le (expiresIn : ℚ) : minRefreshDelay ≤ refreshDelay expiresIn :=
  le_max_right _ _

/-- A token that lasts longer than the floor of the delay is replaced before
it expires. -/
theorem refreshDelay_lt {expiresIn : ℚ} (h : minRefreshDelay < expiresIn) :
    refreshDelay expiresIn < expiresIn := by
  have hpos : 0 < expiresIn := lt_trans (by norm_num [minRefreshDelay]) h
  exact max_lt (sub_lt_self _ (refreshMargin_pos hpos)) h

/-- How a thread that requests tokens stands to the token in the header. -/
structure Current (s : RefreshState OAuth2Token) : Prop where
  /-- A token that outlasts the floor of the delay has not expired. -/
  valid : ∀ expiresIn, s.header.expiresIn = some expiresIn → minRefreshDelay < expiresIn →
    s.clock < s.header.received + expiresIn
  /-- Only a token that does not expire is kept. -/
  alive : ∀ expiresIn, s.header.expiresIn = some expiresIn → s.thread ≠ .ended

theorem wait_of_fetched {since wait : ℚ} {token : OAuth2Token}
    (h : Fetched since (token, some wait)) : since = token.received ∧ minRefreshDelay ≤ wait
      ∧ ∃ expiresIn, token.expiresIn = some expiresIn ∧ wait = refreshDelay expiresIn := by
  obtain ⟨hreceived, hwait⟩ := h
  obtain ⟨expiresIn, hexpires, hdelay⟩ := Option.map_eq_some_iff.mp hwait.symm
  refine ⟨hreceived.symm, ?_, expiresIn, hexpires, hdelay.symm⟩
  rw [← hdelay]
  exact minRefreshDelay_le expiresIn

theorem current_of_punctual {s : RefreshState OAuth2Token} (hs : s.Punctual Fetched) :
    Current s := by
  have hover : ∀ {since wait}, Fetched since (s.header, some wait) → s.clock ≤ since + wait →
      ∀ expiresIn, s.header.expiresIn = some expiresIn → minRefreshDelay < expiresIn →
        s.clock < s.header.received + expiresIn := by
    intro since wait hfetched hclock expiresIn hexpires hmin
    obtain ⟨rfl, -, expiresIn', hexpires', rfl⟩ := wait_of_fetched hfetched
    obtain rfl := Option.some.inj (hexpires.symm.trans hexpires')
    exact lt_of_le_of_lt hclock (add_lt_add_right (refreshDelay_lt hmin) _)
  cases hs with
  | waiting hthread hfetched hclock =>
    exact { valid := hover hfetched hclock
            alive := fun _ _ hended => absurd (hthread.symm.trans hended) nofun }
  | refreshing hthread hfetched hclock =>
    exact { valid := hover hfetched hclock.le
            alive := fun _ _ hended => absurd (hthread.symm.trans hended) nofun }
  | ended hthread hfetched =>
    have hnone : ∀ expiresIn, s.header.expiresIn ≠ some expiresIn := by
      intro expiresIn hexpires
      have hmap := hfetched.2
      rw [hexpires] at hmap
      exact absurd hmap nofun
    exact { valid := fun expiresIn hexpires => absurd hexpires (hnone expiresIn)
            alive := fun expiresIn hexpires => absurd hexpires (hnone expiresIn) }

/-- The token in use has not expired when it outlasts the floor of the delay,
and a next one of any lifetime can come before it does. -/
structure Renewed (first : OAuth2Token) (s : RefreshState OAuth2Token) : Prop where
  current : Current s
  next : ∀ expiresIn, s.header.expiresIn = some expiresIn → minRefreshDelay < expiresIn →
    ∀ lifetime, ∃ more t,
      Machine.Throughout (RefreshState.step (retryAfter first)) (RefreshState.Prompt Fetched) s more
        ∧ Machine.run (RefreshState.step (retryAfter first)) s more = some t
        ∧ t.header.expiresIn = lifetime ∧ t.header.received < s.header.received + expiresIn

/-- **A token that is requested again has not expired**, when it outlasts the
floor of the delay, and whatever token comes next replaces it before. -/
theorem renewed_run {first : OAuth2Token} {actions : List (RefreshAction OAuth2Token)}
    {s : RefreshState OAuth2Token}
    (hprompt : Machine.Throughout (RefreshState.step (retryAfter first))
      (RefreshState.Prompt Fetched) (prepare first) actions)
    (hrun : Machine.run (RefreshState.step (retryAfter first)) (prepare first) actions = some s) :
    Renewed first s := by
  have hwait : ∀ {now value wait}, Fetched now (value, some wait) → 0 ≤ wait := by
    intro now value wait hfetched
    exact le_trans (by norm_num [minRefreshDelay]) (wait_of_fetched hfetched).2.1
  have hfirst : (prepare first).Punctual Fetched ∧ (prepare first).guardHeld = true := by
    unfold prepare
    split
    · rename_i expiresIn hexpires
      have hfetched : Fetched first.received (first, some (refreshDelay expiresIn)) :=
        ⟨rfl, by rw [hexpires]; rfl⟩
      exact ⟨.waiting rfl hfetched (le_add_of_nonneg_right (hwait hfetched)), rfl⟩
    · rename_i hexpires
      have hfetched : Fetched first.received (first, none) := ⟨rfl, by rw [hexpires]; rfl⟩
      exact ⟨.ended rfl hfetched, rfl⟩
  obtain ⟨hpunctual, hheld⟩ := RefreshState.punctual_run hwait hfirst hprompt hrun
  have hcurrent := current_of_punctual hpunctual
  refine ⟨hcurrent, fun expiresIn hexpires hmin lifetime => ?_⟩
  obtain ⟨since, wait, hfetched, hnext⟩ := hpunctual.next hheld (hcurrent.alive _ hexpires)
  obtain ⟨rfl, -, expiresIn', hexpires', rfl⟩ := wait_of_fetched hfetched
  obtain rfl := Option.some.inj (hexpires.symm.trans hexpires')
  -- the next request succeeds, whatever lifetime its token has
  obtain ⟨more, t, hmore, ht, hheader, -⟩ :=
    hnext ({ received := _, expiresIn := lifetime }, lifetime.map refreshDelay) ⟨rfl, rfl⟩
  refine ⟨more, t, hmore, ht, ?_, ?_⟩
  · rw [hheader]
  · rw [hheader]
    exact add_lt_add_right (refreshDelay_lt hmin) _

end OAuth2

/-! ## All refreshes

What does not depend on how long a refresh takes or what it gives. -/

namespace RefreshState

/-- What holds of a refresh thread after some actions, however long its
refreshes take and whatever they give. -/
structure KeepsLatest {V : Type} (retry : ℚ) (value : V) (actions : List (RefreshAction V))
    (s : RefreshState V) : Prop where
  /-- The header holds what the last refresh that succeeded gave. -/
  latest : s.header = ((actions.filterMap issued).getLast?).getD value
  /-- A refresh that fails leaves the header alone and is tried again after
  `retry`. -/
  failure : ∀ message t, step retry s (.refreshed (.error message)) = some t →
    t.header = s.header ∧ t.thread = .waiting s.clock retry
      ∧ ∀ more u, .timeout ∉ more → Machine.run (step retry) t more = some u →
        ((∃ v, step retry u .timeout = some v) ↔ u.guardHeld = true ∧ s.clock + retry ≤ u.clock)
  /-- Once the guard is dropped, only the refresh in progress changes the
  header. -/
  dropped : ∀ t more u, step retry s .dropGuard = some t →
    Machine.run (step retry) t more = some u →
    (more.filter endsRefresh).length ≤ 1 ∧ (s.thread ≠ .refreshing → u.header = s.header)

theorem keepsLatest_run {V : Type} {retry first clock : ℚ} {value : V}
    {actions : List (RefreshAction V)} {s : RefreshState V}
    (h : Machine.run (step retry) (start value first clock) actions = some s) :
    KeepsLatest retry value actions s where
  latest := header_run h
  failure _ _ hfail := retried_after hfail
  dropped := by
    intro t more u hdrop hmore
    obtain rfl := Option.some.inj hdrop
    constructor
    · refine (refreshes_after_drop rfl hmore).trans ?_
      unfold pending
      split
      · exact le_refl 1
      · exact Nat.zero_le 1
    · exact fun hidle => @header_after_drop V retry { s with guardHeld := false } u more rfl hidle
        hmore

end RefreshState

/-- **A refreshed credential is replaced before it expires**: a JWT that is
re-signed at once is always valid, an OAuth2 token that outlasts the floor of
the delay has not expired when the next one comes, and the header holds the
last value a refresh gave, whatever happens. -/
theorem credentials_replaced_in_time :
    (∀ ttl, Jwt.minTtl ≤ ttl → ∀ start actions s,
      Machine.Throughout (RefreshState.step Jwt.retryDelay)
        (RefreshState.Prompt (Jwt.Signed ttl)) (Jwt.prepare ttl start) actions →
      Machine.run (RefreshState.step Jwt.retryDelay) (Jwt.prepare ttl start) actions = some s →
      Jwt.Renewed ttl s)
    ∧ (∀ first actions s,
      Machine.Throughout (RefreshState.step (OAuth2.retryAfter first))
        (RefreshState.Prompt OAuth2.Fetched) (OAuth2.prepare first) actions →
      Machine.run (RefreshState.step (OAuth2.retryAfter first)) (OAuth2.prepare first) actions
        = some s →
      OAuth2.Renewed first s)
    ∧ (∀ (V : Type) (retry first clock : ℚ) (value : V) actions s,
      Machine.run (RefreshState.step retry) (.start value first clock) actions = some s →
      RefreshState.KeepsLatest retry value actions s) :=
  ⟨fun _ httl _ _ _ hprompt hrun => Jwt.renewed_run httl hprompt hrun,
    fun _ _ _ hprompt hrun => OAuth2.renewed_run hprompt hrun,
    fun _ _ _ _ _ _ _ hrun => RefreshState.keepsLatest_run hrun⟩

/-- The shortest lifetime, first signed late in a second. -/
theorem credentials_replaced_in_time_shortest :
    ∃ actions s, Machine.run (RefreshState.step Jwt.retryDelay) (Jwt.prepare 2 (19 / 10)) actions
        = some s ∧ s.header.signed = 26 / 10 ∧ Jwt.Current 2 s := by
  obtain ⟨-, more, s, hmore, hrun, hsigned⟩ :=
    credentials_replaced_in_time.1 2 (le_refl _) (19 / 10) [] _ trivial rfl
  refine ⟨more, s, hrun, ?_,
    (credentials_replaced_in_time.1 2 (le_refl _) _ _ _ hmore hrun).current⟩
  have hexp : (Jwt.signAt 2 (19 / 10)).exp = 3 := by decide +kernel
  rw [hsigned]
  show ((Jwt.signAt 2 (19 / 10)).exp : ℚ) - refreshMargin 2 = 26 / 10
  rw [hexp, refreshMargin, min_eq_left (by norm_num)]
  norm_num

end WsBlast
