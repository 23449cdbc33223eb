import WsBlast.Metrics
import WsBlast.Lib.Machine

/-!
# Where the connections of a run go

The addresses of a target are resolved once. `interleaveFamilies` puts them in
an order in which address families alternate, and `ConnectTarget.prepare`
leaves out those that no source address serves. Every connection then tries
all that are left (`ConnectTarget.order`), first the one that accepted a
connection most recently.

Which one that is, and whose turn of the source addresses it is, are shared by
all connections of a run. `ConnectWorld.step` moves one of them by one access
to what they share, so a run is any interleaving of any number of connections,
and `ConnectWorld.Sound` is what every run keeps.

Trying IPv6 and IPv4 addresses in turn is what RFC 8305 asks for: if one family
does not work, the next attempt is with the other. The first address of the
lookup decides which family begins.
-/

namespace WsBlast

/-! ## Addresses

Addresses as the standard library has them, with what the order depends on. -/

/-- An address of a host. -/
inductive IpAddr where
  | v4 (bits : BitVec 32)
  | v6 (bits : BitVec 128)
  deriving DecidableEq

/-- Its family. -/
def IpAddr.isIpv6 : IpAddr → Bool
  | .v4 _ => false
  | .v6 _ => true

/-- An address and a port. -/
inductive SocketAddr where
  | v4 (ip : BitVec 32) (port : UInt16)
  | v6 (ip : BitVec 128) (port : UInt16) (flowinfo scopeId : UInt32)
  deriving DecidableEq

/-- Its family. -/
def SocketAddr.isIpv6 : SocketAddr → Bool
  | .v4 _ _ => false
  | .v6 _ _ _ _ => true

/-! ## The order of the families

The addresses of each family in their order, taken in turn. -/

/-- Takes from two lists in turn, and the rest of the longer one. -/
def alternate {A : Type} : List A → List A → List A
  | [], secondary => secondary
  | a :: primary, [] => a :: alternate primary []
  | a :: primary, b :: secondary => a :: b :: alternate primary secondary

/-- Reorders addresses so that families alternate, starting with the family of
the first address, and otherwise keeps the resolver's order. -/
def interleaveFamilies (addrs : List SocketAddr) : List SocketAddr :=
  match addrs with
  | [] => []
  | first :: _ =>
    let (primary, secondary) := addrs.partition fun addr => addr.isIpv6 == first.isIpv6
    alternate primary secondary

theorem alternate_nil_right {A : Type} (primary : List A) : alternate primary [] = primary := by
  induction primary with
  | nil => rfl
  | cons a primary ih => rw [alternate, ih]

theorem alternate_perm {A : Type} (primary secondary : List A) :
    (alternate primary secondary).Perm (primary ++ secondary) := by
  induction primary generalizing secondary with
  | nil => exact List.Perm.refl _
  | cons a primary ih =>
    cases secondary with
    | nil => rw [alternate_nil_right, List.append_nil]
    | cons b secondary =>
      rw [alternate, List.cons_append]
      exact ((ih secondary).cons b |>.trans List.perm_middle.symm).cons a

/-- What is taken from one list keeps its order. -/
theorem filter_alternate {A : Type} {p : A → Bool} {primary secondary : List A}
    (hprimary : ∀ a ∈ primary, p a = true) (hsecondary : ∀ b ∈ secondary, p b = false) :
    (alternate primary secondary).filter p = primary
    ∧ (alternate primary secondary).filter (fun a => !p a) = secondary := by
  induction primary generalizing secondary with
  | nil =>
    rw [alternate]
    refine ⟨List.filter_eq_nil_iff.mpr fun b hb => ?_, List.filter_eq_self.mpr fun b hb => ?_⟩
    · rw [hsecondary b hb]
      exact Bool.false_ne_true
    · rw [hsecondary b hb]
      rfl
  | cons a primary ih =>
    have ha : p a = true := hprimary a List.mem_cons_self
    cases secondary with
    | nil =>
      rw [alternate_nil_right]
      refine ⟨List.filter_eq_self.mpr hprimary, List.filter_eq_nil_iff.mpr fun x hx => ?_⟩
      rw [hprimary x hx]
      exact Bool.false_ne_true
    | cons b secondary =>
      have hb : p b = false := hsecondary b List.mem_cons_self
      obtain ⟨hkept, hleft⟩ := @ih secondary (fun x hx => hprimary x (List.mem_cons_of_mem _ hx))
        fun x hx => hsecondary x (List.mem_cons_of_mem _ hx)
      rw [alternate]
      simp only [List.filter_cons, ha, hb, hkept, hleft, if_true, Bool.not_true, Bool.not_false,
        Bool.false_eq_true, if_false, and_self]

/-- Families alternate, starting with IPv6 or not. -/
def Alternates (ipv6 : Bool) : List SocketAddr → Prop
  | [] => True
  | addr :: rest => addr.isIpv6 = ipv6 ∧ Alternates (!ipv6) rest

/-- Two families alternate until one of them is used up. -/
theorem alternate_alternates {ipv6 : Bool} {primary secondary : List SocketAddr}
    (hprimary : ∀ a ∈ primary, a.isIpv6 = ipv6) (hsecondary : ∀ b ∈ secondary, b.isIpv6 = !ipv6) :
    ∃ alternating rest, alternate primary secondary = alternating ++ rest
      ∧ Alternates ipv6 alternating
      ∧ alternating.length = 2 * min primary.length secondary.length
      ∧ ∀ a ∈ rest, ∀ b ∈ rest, a.isIpv6 = b.isIpv6 := by
  induction primary generalizing secondary with
  | nil =>
    refine ⟨[], secondary, rfl, trivial, by simp, fun a ha b hb => ?_⟩
    rw [hsecondary a ha, hsecondary b hb]
  | cons a primary ih =>
    cases secondary with
    | nil =>
      refine ⟨[], a :: primary, alternate_nil_right _, trivial, by simp, fun x hx y hy => ?_⟩
      rw [hprimary x hx, hprimary y hy]
    | cons b secondary =>
      obtain ⟨alternating, rest, heq, halternates, hlength, hrest⟩ := @ih secondary
        (fun x hx => hprimary x (List.mem_cons_of_mem _ hx))
        fun x hx => hsecondary x (List.mem_cons_of_mem _ hx)
      refine ⟨a :: b :: alternating, rest, ?_, ⟨hprimary a List.mem_cons_self,
        hsecondary b List.mem_cons_self, ?_⟩, ?_, hrest⟩
      · rw [alternate, heq]
        rfl
      · rw [Bool.not_not]
        exact halternates
      · simp only [List.length_cons, hlength]
        omega

/-- A list of addresses has their two families in turn. -/
structure Interleaved (addrs order : List SocketAddr) : Prop where
  perm : order.Perm addrs
  /-- Within a family the addresses stay in order. -/
  family : ∀ ipv6 : Bool, order.filter (fun addr => addr.isIpv6 == ipv6)
    = addrs.filter fun addr => addr.isIpv6 == ipv6
  /-- The family of the first address comes first, and the families alternate
  until one of them is used up. -/
  alternates : ∀ first ∈ addrs.head?, ∃ alternating rest, order = alternating ++ rest
    ∧ Alternates first.isIpv6 alternating
    ∧ alternating.length = 2 * min (addrs.countP fun addr => addr.isIpv6 == first.isIpv6)
        (addrs.countP fun addr => addr.isIpv6 == !first.isIpv6)
    ∧ ∀ a ∈ rest, ∀ b ∈ rest, a.isIpv6 = b.isIpv6

/-- **The order of the families**: a permutation that keeps the order within
each family and alternates them, starting with the first address's, until one
is used up. -/
theorem interleaved_interleaveFamilies (addrs : List SocketAddr) :
    Interleaved addrs (interleaveFamilies addrs) := by
  cases addrs with
  | nil => exact ⟨List.Perm.refl _, fun _ => rfl, fun _ h => absurd h (Option.not_mem_none _)⟩
  | cons first others =>
    generalize haddrs : first :: others = addrs
    -- the family of the first address, and the other one
    let p : SocketAddr → Bool := fun addr => addr.isIpv6 == first.isIpv6
    have hother : (fun addr => !p addr)
        = fun addr : SocketAddr => addr.isIpv6 == !first.isIpv6 := by
      funext addr
      show (!(addr.isIpv6 == first.isIpv6)) = _
      cases addr.isIpv6 <;> cases first.isIpv6 <;> rfl
    have heq : interleaveFamilies addrs
        = alternate (addrs.filter p) (addrs.filter fun addr => !p addr) := by
      rw [← haddrs]
      show (let (primary, secondary) := (first :: others).partition p
        alternate primary secondary) = _
      rw [List.partition_eq_filter_filter]
      rfl
    have hprimary : ∀ a ∈ addrs.filter p, p a = true := fun a ha => (List.mem_filter.mp ha).2
    have hsecondary : ∀ b ∈ addrs.filter (fun addr => !p addr), p b = false := fun b hb =>
      (Bool.not_eq_true' _).mp (List.mem_filter.mp hb).2
    obtain ⟨hkept, hleft⟩ := filter_alternate hprimary hsecondary
    rw [heq]
    refine ⟨(alternate_perm _ _).trans (List.filter_append_perm p addrs), fun ipv6 => ?_, ?_⟩
    · rcases Bool.eq_or_eq_not ipv6 first.isIpv6 with rfl | rfl
      · exact hkept
      · rw [← hother]
        exact hleft
    · intro head hhead
      have hfirst : head = first := by
        rw [← haddrs] at hhead
        exact (Option.some.inj hhead).symm
      rw [hfirst]
      obtain ⟨alternating, rest, hsplit, halternates, hlength, hrest⟩ := @alternate_alternates
        first.isIpv6 (addrs.filter p) (addrs.filter fun addr => !p addr)
        (fun a ha => eq_of_beq (hprimary a ha)) fun b hb => by
          rw [hother] at hb
          exact eq_of_beq (List.mem_filter.mp hb).2
      refine ⟨alternating, rest, hsplit, halternates, ?_, hrest⟩
      rw [hlength, hother, List.countP_eq_length_filter, List.countP_eq_length_filter]

/-! ## Source addresses

The two lists carry the proof that they are of their families. -/

/-- The local addresses connections bind, by family, taken in turn. -/
structure SourceIps where
  v4 : List IpAddr
  v6 : List IpAddr
  v4_family : ∀ ip ∈ v4, ip.isIpv6 = false
  v6_family : ∀ ip ∈ v6, ip.isIpv6 = true

namespace SourceIps

/-- The sources of a list, by family. -/
def new (ips : List IpAddr) : SourceIps where
  v4 := ips.filter fun ip => !ip.isIpv6
  v6 := ips.filter fun ip => ip.isIpv6
  v4_family := fun _ hip => (Bool.not_eq_true' _).mp (List.mem_filter.mp hip).2
  v6_family := fun _ hip => (List.mem_filter.mp hip).2

variable (sources : SourceIps)

/-- No sources were given. -/
def isEmpty : Bool := sources.v4.isEmpty && sources.v6.isEmpty

/-- The sources of the family of an address. -/
def ofFamily (addr : SocketAddr) : List IpAddr := if addr.isIpv6 then sources.v6 else sources.v4

/-- Whether a connection to `addr` can bind one of the sources. -/
def serves (addr : SocketAddr) : Bool := sources.isEmpty || !(sources.ofFamily addr).isEmpty

/-- The source connection `turn` binds for `addr`; `none` without sources. -/
def forTurn (addr : SocketAddr) (turn : ℕ) : Option IpAddr :=
  let family := sources.ofFamily addr
  if family.isEmpty then none else family[turn % family.length]?

variable {sources}

/-- **A source is of the family of the address it is for.** -/
theorem forTurn_spec {addr : SocketAddr} (h : sources.serves addr = true) (turn : ℕ) :
    if sources.isEmpty then sources.forTurn addr turn = none
    else ∃ ip, sources.forTurn addr turn = some ip ∧ ip ∈ sources.ofFamily addr
      ∧ ip.isIpv6 = addr.isIpv6 := by
  have hfamily : ∀ ip ∈ sources.ofFamily addr, ip.isIpv6 = addr.isIpv6 := by
    intro ip hip
    unfold ofFamily at hip
    cases haddr : addr.isIpv6 with
    | true =>
      rw [haddr] at hip
      exact sources.v6_family ip hip
    | false =>
      rw [haddr] at hip
      exact sources.v4_family ip hip
  unfold forTurn
  by_cases hempty : sources.isEmpty = true
  · -- without sources both families are empty
    have hnone : sources.ofFamily addr = [] := by
      obtain ⟨hv4, hv6⟩ := Bool.and_eq_true_iff.mp hempty
      unfold ofFamily
      rw [List.isEmpty_iff.mp hv4, List.isEmpty_iff.mp hv6, ite_self]
    rw [if_pos hempty, hnone]
    rfl
  · have hsome : (sources.ofFamily addr).isEmpty = false := by
      rcases Bool.or_eq_true_iff.mp h with hnone | hsome
      · exact absurd hnone hempty
      · exact (Bool.not_eq_true' _).mp hsome
    have hpos : 0 < (sources.ofFamily addr).length :=
      List.length_pos_iff.mpr (List.isEmpty_eq_false_iff.mp hsome)
    -- the turn wraps around the family
    have hlt := Nat.mod_lt turn hpos
    rw [if_neg hempty]
    refine ⟨(sources.ofFamily addr)[turn % (sources.ofFamily addr).length], ?_,
      List.getElem_mem hlt, hfamily _ (List.getElem_mem hlt)⟩
    dsimp only
    rw [hsome, if_neg Bool.false_ne_true, List.getElem?_eq_getElem hlt]

end SourceIps

/-! ## The target

The list that is shared, and the order in which one connection goes through it.
-/

/-- Where every worker of a run connects, when there is an address to connect
to. What its connections change is in `ConnectWorld`. -/
structure ConnectTarget where
  addrs : List SocketAddr
  sources : SourceIps
  nonempty : addrs ≠ []
  served : ∀ addr ∈ addrs, sources.serves addr = true

namespace ConnectTarget

/-- The addresses of a host name, as its lookup found them. -/
def resolve (lookup : Except ErrorCategory (List SocketAddr)) :
    Except ErrorCategory (List SocketAddr) := do
  let addrs ← lookup
  if addrs = [] then throw .dnsResolution else pure (interleaveFamilies addrs)

/-- The target of a run: the addresses of a family that has a source. -/
def prepare (lookup : Except ErrorCategory (List SocketAddr)) (sourceIps : List IpAddr) :
    Except ErrorCategory ConnectTarget :=
  let sources := SourceIps.new sourceIps
  match resolve lookup with
  | .error category => .error category
  | .ok addrs =>
    let usable := addrs.filter sources.serves
    if h : usable = [] then .error .tcpConnect
    else .ok {
      addrs := usable
      sources
      nonempty := h
      served := fun _ haddr => (List.mem_filter.mp haddr).2 }

variable (target : ConnectTarget)

/-- The addresses a connection tries, with the source it binds for each: the
preferred one, then the others; `none` when there is no preferred one. -/
def order (preferred turn : ℕ) : Option (List (SocketAddr × Option IpAddr)) :=
  target.addrs[preferred]?.map fun first =>
    let others := (target.addrs.zipIdx.filter fun item => item.2 != preferred).map Prod.fst
    (first :: others).map fun addr => (addr, target.sources.forTurn addr turn)

/-- What a connection tries: every usable address once, the preferred one
first, each from a source of its family when there are sources. -/
structure Tries (preferred : ℕ) (order : List (SocketAddr × Option IpAddr)) : Prop where
  perm : (order.map Prod.fst).Perm target.addrs
  first : (order.map Prod.fst).head? = target.addrs[preferred]?
  sources : ∀ item ∈ order,
    if target.sources.isEmpty then item.2 = none
    else ∃ ip, item.2 = some ip ∧ ip ∈ target.sources.ofFamily item.1
      ∧ ip.isIpv6 = item.1.isIpv6

variable {target}

/-- The entries whose index is not `i` are what is left without entry `i`. -/
theorem map_fst_filter_zipIdx {A : Type} (xs : List A) (start i : ℕ) :
    ((xs.zipIdx start).filter fun item => item.2 != start + i).map Prod.fst = xs.eraseIdx i := by
  induction xs generalizing start i with
  | nil => rfl
  | cons x xs ih =>
    rw [List.zipIdx_cons]
    cases i with
    | zero =>
      have hrest : (xs.zipIdx (start + 1)).filter (fun item => item.2 != start)
          = xs.zipIdx (start + 1) := by
        refine List.filter_eq_self.mpr fun item hitem => bne_iff_ne.mpr ?_
        have hle := List.le_snd_of_mem_zipIdx hitem
        omega
      rw [List.filter_cons_of_neg (by simp), Nat.add_zero, hrest, List.zipIdx_map_fst]
      rfl
    | succ i =>
      have hnext : start + (i + 1) = start + 1 + i := by omega
      have hkept : ((x, start).2 != start + (i + 1)) = true := bne_iff_ne.mpr (by omega)
      rw [List.filter_cons, if_pos hkept, List.map_cons, hnext, ih (start + 1) i]
      rfl

/-- **What a connection tries**, whatever its turn is. -/
theorem order_spec {preferred : ℕ} (h : preferred < target.addrs.length) (turn : ℕ) :
    ∃ order, target.order preferred turn = some order ∧ target.Tries preferred order := by
  have hfirst : target.addrs[preferred]? = some target.addrs[preferred] :=
    List.getElem?_eq_getElem h
  have hothers : ((target.addrs.zipIdx.filter fun item => item.2 != preferred).map Prod.fst)
      = target.addrs.eraseIdx preferred := by
    have heq := map_fst_filter_zipIdx target.addrs 0 preferred
    rwa [Nat.zero_add] at heq
  have hperm : (target.addrs[preferred] :: target.addrs.eraseIdx preferred).Perm target.addrs :=
    List.getElem_cons_eraseIdx_perm h
  refine ⟨(target.addrs[preferred] :: target.addrs.eraseIdx preferred).map
    fun addr => (addr, target.sources.forTurn addr turn), ?_, ?_, ?_, ?_⟩
  · unfold order
    rw [hfirst, Option.map_some, hothers]
  · rw [List.map_map]
    show ((target.addrs[preferred] :: target.addrs.eraseIdx preferred).map fun addr => addr).Perm _
    rw [List.map_id']
    exact hperm
  · rw [hfirst]
    rfl
  · intro item hitem
    obtain ⟨addr, haddr, rfl⟩ := List.mem_map.mp hitem
    exact SourceIps.forTurn_spec (target.served addr (hperm.mem_iff.mp haddr)) turn

/-- The addresses of a target are those found that a source serves. -/
theorem addrs_prepare {lookup : List SocketAddr} {sourceIps : List IpAddr}
    (h : prepare (.ok lookup) sourceIps = .ok target) :
    target.addrs.Perm (lookup.filter (SourceIps.new sourceIps).serves) := by
  have hperm := (interleaved_interleaveFamilies lookup).perm
  unfold prepare at h
  by_cases hempty : lookup = []
  · rw [hempty] at h
    cases h
  · have hresolve : resolve (.ok lookup) = .ok (interleaveFamilies lookup) := if_neg hempty
    simp only [hresolve] at h
    split at h
    · cases h
    · obtain rfl := Except.ok.inj h
      exact hperm.filter _

end ConnectTarget

/-! ## Connections at the same time -/

/-- How far a connection has come. -/
inductive ConnectPhase where
  | idle
  /-- It has read which address is preferred. -/
  | preferring (preferred : ℕ)
  /-- It connects to its addresses; `none` when there was no preferred one. -/
  | racing (preferred : ℕ) (order : Option (List (SocketAddr × Option IpAddr)))

/-- The connections to a target and what they share. -/
structure ConnectWorld (ι : Type) where
  /-- Index of the address that most recently accepted a connection. -/
  preferred : ℕ := 0
  /-- Connections that took a source so far, as `usize` counts them. -/
  next : ℕ := 0
  phase : ι → ConnectPhase := fun _ => .idle

/-- An access of a connection to what all of them share. -/
inductive ConnectAction (ι : Type) where
  /-- `preferred.load`. -/
  | load (i : ι)
  /-- `next.fetch_add`, and the order is built. -/
  | takeTurn (i : ι)
  /-- A connection was opened; the address of its peer, when it can be read. -/
  | opened (i : ι) (peer : Option SocketAddr)
  | failed (i : ι)

namespace ConnectWorld

variable {ι : Type} [DecidableEq ι] (target : ConnectTarget)

/-- A connection gets to its next phase. -/
def moveTo (world : ConnectWorld ι) (i : ι) (phase : ConnectPhase) : ConnectWorld ι :=
  { world with phase := Function.update world.phase i phase }

/-- What one access does; a connection that is over can start again. -/
def step (world : ConnectWorld ι) : ConnectAction ι → Option (ConnectWorld ι)
  | .load i =>
    match world.phase i with
    | .idle => some (world.moveTo i (.preferring (min world.preferred (target.addrs.length - 1))))
    | _ => none
  | .takeTurn i =>
    match world.phase i with
    | .preferring preferred =>
      if target.sources.isEmpty then
        some (world.moveTo i (.racing preferred (target.order preferred 0)))
      else
        let world := world.moveTo i (.racing preferred (target.order preferred world.next))
        some { world with next := (world.next + 1) % 2 ^ 64 }
    | _ => none
  | .opened i peer =>
    match world.phase i with
    | .racing _ _ =>
      let world := world.moveTo i .idle
      match peer.bind fun addr => target.addrs.findIdx? fun usable => usable == addr with
      | some index => some { world with preferred := index }
      | none => some world
    | _ => none
  | .failed i =>
    match world.phase i with
    | .racing _ _ => some (world.moveTo i .idle)
    | _ => none

/-- What holds of a connection at every moment. -/
def PhaseSound : ConnectPhase → Prop
  | .idle => True
  | .preferring preferred => preferred < target.addrs.length
  | .racing preferred order => preferred < target.addrs.length
    ∧ ∃ tried, order = some tried ∧ target.Tries preferred tried

/-- What every run keeps: an address of the target is preferred, and every
connection tries them all. -/
structure Sound (world : ConnectWorld ι) : Prop where
  preferred : world.preferred < target.addrs.length
  phases : ∀ i, PhaseSound target (world.phase i)

variable {target} {world : ConnectWorld ι}

theorem Sound.moveTo (h : world.Sound target) (i : ι) {phase : ConnectPhase}
    (hphase : PhaseSound target phase) : (world.moveTo i phase).Sound target := by
  refine ⟨h.preferred, fun j => ?_⟩
  show PhaseSound target (Function.update world.phase i phase j)
  rw [Function.update_apply]
  split
  · exact hphase
  · exact h.phases j

omit [DecidableEq ι] in
theorem sound_start : (({} : ConnectWorld ι)).Sound target :=
  ⟨List.length_pos_iff.mpr target.nonempty, fun _ => trivial⟩

/-- **An access keeps the state sound.** -/
theorem Sound.step {action : ConnectAction ι} {world' : ConnectWorld ι} (h : world.Sound target)
    (hstep : world.step target action = some world') : world'.Sound target := by
  have hphase : ∀ i, PhaseSound target (world.phase i) := h.phases
  -- by the access that is made
  cases action with
  | load i =>
    unfold ConnectWorld.step at hstep
    dsimp only at hstep
    split at hstep
    · obtain rfl := Option.some.inj hstep
      refine h.moveTo i ?_
      -- the clamp of the loaded index
      have hpos := List.length_pos_iff.mpr target.nonempty
      show min world.preferred (target.addrs.length - 1) < target.addrs.length
      omega
    · cases hstep
  | takeTurn i =>
    unfold ConnectWorld.step at hstep
    dsimp only at hstep
    split at hstep
    · rename_i preferred hpreferring
      have hlt : preferred < target.addrs.length := by
        have := hphase i
        rwa [hpreferring] at this
      split at hstep
      · obtain rfl := Option.some.inj hstep
        exact h.moveTo i ⟨hlt, ConnectTarget.order_spec hlt 0⟩
      · obtain rfl := Option.some.inj hstep
        have hmoved := @Sound.moveTo _ _ _ _ h i
          (.racing preferred (target.order preferred world.next))
          ⟨hlt, ConnectTarget.order_spec hlt _⟩
        exact ⟨hmoved.preferred, hmoved.phases⟩
    · cases hstep
  | opened i peer =>
    unfold ConnectWorld.step at hstep
    dsimp only at hstep
    split at hstep
    · have hmoved := @Sound.moveTo _ _ _ _ h i .idle trivial
      split at hstep
      · -- the index that is stored is that of the peer among the addresses
        rename_i index hindex
        obtain rfl := Option.some.inj hstep
        obtain ⟨addr, -, hfound⟩ := Option.bind_eq_some_iff.mp hindex
        exact ⟨(List.findIdx?_eq_some_iff_getElem.mp hfound).1, hmoved.phases⟩
      · obtain rfl := Option.some.inj hstep
        exact hmoved
    · cases hstep
  | failed i =>
    unfold ConnectWorld.step at hstep
    dsimp only at hstep
    split at hstep
    · obtain rfl := Option.some.inj hstep
      exact h.moveTo i trivial
    · cases hstep

/-- **Every run of any number of connections is sound.** -/
theorem sound_run {actions : List (ConnectAction ι)}
    (hrun : Machine.run (step target) {} actions = some world) : world.Sound target :=
  Machine.run_inv (fun h hstep => h.step hstep) sound_start hrun

end ConnectWorld

end WsBlast
