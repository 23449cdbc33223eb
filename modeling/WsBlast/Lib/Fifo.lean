import Mathlib

/-!
# Channels that deliver in order

A channel delivers its messages in order, each once. It can be closed at any
moment: from then on nothing is added to it, and what is still in flight is
delivered or, when it was cut, some first part of it.

Some messages of a channel are numbered, by a function `number`, and the
numbered ones are sent in the order 0, 1, 2, … `Fifo.Carries number sent`
says that `sent` of them were sent, and gives the number of the one that is
received next: it is the count of those received (`Carries.eq_count`). With one
channel in each direction this is how two parties that take turns keep in step.

This is what a stream socket or a bounded channel of a runtime promises, no
more. There is no loss on an open channel and no reordering ever; what a cut
loses is a suffix, so what was delivered of a channel is always a prefix of what
was sent on it.
-/

/-- A channel, with what it has delivered. -/
structure Fifo (M : Type) where
  /-- The messages that were delivered, oldest first. -/
  received : List M := []
  /-- The messages that were sent and not delivered yet, oldest first. -/
  inFlight : List M := []
  /-- Whether the channel was closed. What is in flight then can still be
  delivered. -/
  closed : Bool := false
  deriving DecidableEq

namespace Fifo

variable {M : Type}

/-- Adds a message; on a closed channel it is lost. -/
def send (c : Fifo M) (m : M) : Fifo M :=
  if c.closed then c else { c with inFlight := c.inFlight ++ [m] }

/-- Nothing is added any more. -/
def close (c : Fifo M) : Fifo M := { c with closed := true }

/-- Closes the channel and loses all but the first `kept` messages in
flight. -/
def cut (kept : ℕ) (c : Fifo M) : Fifo M :=
  { c with inFlight := c.inFlight.take kept, closed := true }

/-- Delivers the next message. -/
def receive (c : Fifo M) : Option (M × Fifo M) :=
  match c.inFlight with
  | [] => none
  | m :: rest => some (m, { c with received := c.received ++ [m], inFlight := rest })

/-- Everything that was sent and not lost. -/
def all (c : Fifo M) : List M := c.received ++ c.inFlight

variable {c d : Fifo M} {m : M}

theorem receive_eq_some :
    c.receive = some (m, d)
      ↔ c.inFlight = m :: d.inFlight ∧ d.received = c.received ++ [m] ∧ d.closed = c.closed := by
  unfold receive
  constructor
  · intro h
    split at h
    · cases h
    · rename_i m' rest hflight
      obtain ⟨rfl, rfl⟩ := Prod.mk.inj (Option.some.inj h)
      exact ⟨hflight, rfl, rfl⟩
  · rintro ⟨hflight, hreceived, hclosed⟩
    rw [hflight]
    dsimp only
    rw [← hreceived, ← hclosed]

theorem all_send : (c.send m).all = if c.closed then c.all else c.all ++ [m] := by
  unfold send all
  split
  · rfl
  · exact (List.append_assoc _ _ _).symm

/-- What is in flight after a message was sent. -/
theorem inFlight_send :
    (c.send m).inFlight = c.inFlight ∨ (c.send m).inFlight = c.inFlight ++ [m] := by
  unfold send
  split
  · exact .inl rfl
  · exact .inr rfl

theorem all_cut_isPrefix (kept : ℕ) : (c.cut kept).all <+: c.all :=
  List.prefix_append_right_inj c.received |>.mpr (List.take_prefix kept c.inFlight)

theorem all_receive (h : c.receive = some (m, d)) : d.all = c.all := by
  obtain ⟨hflight, hreceived, -⟩ := receive_eq_some.mp h
  unfold all
  rw [hflight, hreceived, List.append_assoc, List.singleton_append]

theorem mem_all_send {m' : M} (h : m' ∈ (c.send m).all) : m' ∈ c.all ∨ m' = m := by
  rw [all_send] at h
  split at h
  · exact .inl h
  · rwa [List.mem_append, List.mem_singleton] at h

theorem mem_all_cut {kept : ℕ} (h : m ∈ (c.cut kept).all) : m ∈ c.all :=
  (all_cut_isPrefix kept).subset h

theorem mem_received_receive {m' : M} (h : c.receive = some (m, d)) :
    m' ∈ d.received ↔ m' ∈ c.received ∨ m' = m := by
  rw [(receive_eq_some.mp h).2.1, List.mem_append, List.mem_singleton]

theorem mem_all_of_receive (h : c.receive = some (m, d)) : m ∈ c.all := by
  unfold all
  rw [(receive_eq_some.mp h).1]
  exact List.mem_append_right _ List.mem_cons_self

@[simp] theorem received_send : (c.send m).received = c.received := by
  unfold send
  split <;> rfl

@[simp] theorem closed_send : (c.send m).closed = c.closed := by
  unfold send
  split <;> rfl

/-! ## Numbered messages

A protocol in which one party asks and the other answers numbers its questions
implicitly: the next answer belongs to the next question. -/

variable {number : M → Option ℕ} {sent k : ℕ}

/-- How many numbered messages were received. -/
def count (number : M → Option ℕ) (c : Fifo M) : ℕ := (c.received.filterMap number).length

@[simp] theorem count_send : (c.send m).count number = c.count number := by
  unfold count
  rw [received_send]

/-- `sent` numbered messages were sent, in order, and the first of them are
there: all of them while the channel is open. -/
structure Carries (number : M → Option ℕ) (sent : ℕ) (c : Fifo M) : Prop where
  /-- The numbers on the channel are the first ones, in order. -/
  in_order : c.all.filterMap number <+: List.range sent
  /-- While the channel is open they are all of them. -/
  none_lost : c.closed = false → c.all.filterMap number = List.range sent

theorem carries_empty : Carries number 0 ({} : Fifo M) := ⟨List.prefix_rfl, fun _ => rfl⟩

/-- Messages between the numbered ones. -/
theorem Carries.send_other (h : Carries number sent c) (hm : number m = none) :
    Carries number sent (c.send m) := by
  have hsame : (c.send m).all.filterMap number = c.all.filterMap number := by
    rw [all_send]
    split
    · rfl
    · rw [List.filterMap_append, List.filterMap_cons_none hm, List.filterMap_nil, List.append_nil]
  refine ⟨?_, fun hopen => ?_⟩
  · rw [hsame]
    exact h.in_order
  · rw [hsame]
    exact h.none_lost (closed_send.symm.trans hopen)

/-- The next numbered message. -/
theorem Carries.send_next (h : Carries number sent c) (hm : number m = some sent) :
    Carries number (sent + 1) (c.send m) := by
  cases hclosed : c.closed with
  | true =>
    have hsame : c.send m = c := if_pos hclosed
    rw [hsame]
    refine ⟨h.in_order.trans ?_, fun hopen => absurd (hclosed.symm.trans hopen) nofun⟩
    rw [List.range_succ]
    exact List.prefix_append _ _
  | false =>
    have hall : (c.send m).all.filterMap number = List.range (sent + 1) := by
      rw [all_send, if_neg (by rw [hclosed]; exact Bool.false_ne_true), List.filterMap_append,
        h.none_lost hclosed, List.filterMap_cons_some hm, List.filterMap_nil, List.range_succ]
    exact ⟨hall ▸ List.prefix_rfl, fun _ => hall⟩

theorem Carries.close (h : Carries number sent c) : Carries number sent c.close :=
  ⟨h.in_order, fun hopen => absurd hopen nofun⟩

theorem Carries.cut (h : Carries number sent c) (kept : ℕ) : Carries number sent (c.cut kept) :=
  ⟨((all_cut_isPrefix kept).filterMap number).trans h.in_order, fun hopen => absurd hopen nofun⟩

theorem Carries.receive (h : Carries number sent c) (hreceive : c.receive = some (m, d)) :
    Carries number sent d := by
  have hclosed : d.closed = c.closed := (receive_eq_some.mp hreceive).2.2
  refine ⟨?_, fun hopen => ?_⟩
  · rw [all_receive hreceive]
    exact h.in_order
  · rw [all_receive hreceive]
    exact h.none_lost (hclosed.symm.trans hopen)

/-- The numbers received are the first ones. -/
theorem Carries.received_eq (h : Carries number sent c) :
    c.received.filterMap number = List.range (c.count number) := by
  have hprefix : c.received.filterMap number <+: List.range sent :=
    ((List.prefix_append c.received c.inFlight).filterMap number).trans h.in_order
  have htake := List.prefix_iff_eq_take.mp hprefix
  rw [List.take_range] at htake
  have hlength := congrArg List.length htake
  rw [List.length_range] at hlength
  unfold count
  rw [htake, List.length_range, ← hlength]

theorem Carries.count_le (h : Carries number sent c) : c.count number ≤ sent := by
  have hprefix : c.received.filterMap number <+: List.range sent :=
    ((List.prefix_append c.received c.inFlight).filterMap number).trans h.in_order
  exact hprefix.length_le.trans_eq List.length_range

/-- Every number below the count was received. -/
theorem Carries.exists_received (h : Carries number sent c) (hk : k < c.count number) :
    ∃ m ∈ c.received, number m = some k := by
  have hmem : k ∈ c.received.filterMap number := by
    rw [h.received_eq]
    exact List.mem_range.mpr hk
  exact List.mem_filterMap.mp hmem

/-- What is received between the numbered messages. -/
theorem count_receive_other (hreceive : c.receive = some (m, d)) (hm : number m = none) :
    d.count number = c.count number := by
  obtain ⟨-, hreceived, -⟩ := receive_eq_some.mp hreceive
  unfold count
  rw [hreceived, List.filterMap_append, List.filterMap_cons_none hm, List.filterMap_nil,
    List.append_nil]

theorem count_le_of_receive (hreceive : c.receive = some (m, d)) :
    c.count number ≤ d.count number := by
  obtain ⟨-, hreceived, -⟩ := receive_eq_some.mp hreceive
  unfold count
  rw [hreceived, List.filterMap_append, List.length_append]
  exact Nat.le_add_right _ _

/-- **The number that is received next** is the count of those received. -/
theorem Carries.eq_count (h : Carries number sent c) (hreceive : c.receive = some (m, d))
    (hm : number m = some k) : k = c.count number ∧ d.count number = k + 1 := by
  obtain ⟨-, hreceived, -⟩ := receive_eq_some.mp hreceive
  have hafter := (h.receive hreceive).received_eq
  have hcount : d.count number = c.count number + 1 := by
    unfold count
    rw [hreceived, List.filterMap_append, List.filterMap_cons_some hm, List.length_append]
    rfl
  rw [hreceived, List.filterMap_append, h.received_eq, List.filterMap_cons_some hm,
    List.filterMap_nil, hcount, List.range_succ] at hafter
  have hk : k = c.count number := List.singleton_inj.mp (List.append_cancel_left hafter)
  exact ⟨hk, hk ▸ hcount⟩

end Fifo
