import Mathlib.Data.List.Basic
import Mathlib.Order.Nat

/-!
# A buffered writer over a file that starts to fail

`BufWriter` collects what is written in a buffer and hands it to a file when
the buffer is full, or when it is flushed; what does not fit in the buffer at
all goes to the file directly. The file takes a number of bytes (`room`) and
then fails for good.

A failure is only noticed when bytes are handed over, which can be long after
they were written. `held` is what the buffer holds after writing pieces of
given lengths, whatever the file does, and a write fails exactly when what was
handed over by then is more than the file takes (`writePieces_spec`).

The file is modelled by the one thing that matters to a writer, how many bytes
it still takes.
-/

/-- A buffered writer, with the bytes that reached its file and the number of
bytes the file still takes. -/
structure BufWriter (β : Type) where
  /-- What was written and not handed over. -/
  buffer : List β := []
  /-- The bytes the file has taken. -/
  file : List β := []
  /-- How many more bytes the file takes. -/
  room : ℕ
  deriving DecidableEq, Repr

namespace BufWriter

variable {β : Type}

/-- The file takes some bytes; the result says whether it took all of them. -/
def put (w : BufWriter β) (bytes : List β) : BufWriter β × Bool :=
  ({ w with file := w.file ++ bytes.take w.room, room := w.room - bytes.length },
    decide (bytes.length ≤ w.room))

/-- Hands the buffer to the file. What the file does not take stays in the
buffer. -/
def flush (w : BufWriter β) : BufWriter β × Bool :=
  put { w with buffer := w.buffer.drop w.room } w.buffer

/-- Writes some bytes: into the buffer, which is handed over first if they do
not fit, or directly to the file if they are as long as the buffer. -/
def writeAll (capacity : ℕ) (w : BufWriter β) (bytes : List β) : BufWriter β × Bool :=
  let (w, ok) := if capacity - w.buffer.length < bytes.length then w.flush else (w, true)
  if ok then
    if capacity ≤ bytes.length then w.put bytes
    else ({ w with buffer := w.buffer ++ bytes }, true)
  else (w, false)

/-- Writes pieces one after the other, up to the first that fails. -/
def writePieces (capacity : ℕ) (w : BufWriter β) : List (List β) → BufWriter β × Bool
  | [] => (w, true)
  | piece :: rest =>
    let (w, ok) := w.writeAll capacity piece
    if ok then w.writePieces capacity rest else (w, false)

/-! ## What the buffer holds

The lengths of the pieces decide when the buffer is handed over, so what it
holds can be computed without the file. -/

/-- What a buffer that held `before` bytes holds after a write of `length`
bytes. -/
def heldNext (capacity before length : ℕ) : ℕ :=
  if capacity ≤ length then 0
  else if capacity - before < length then length
  else before + length

/-- What it holds after pieces. -/
def held (capacity before : ℕ) (pieces : List (List β)) : ℕ :=
  pieces.foldl (fun before piece => heldNext capacity before piece.length) before

@[simp] theorem held_nil (capacity before : ℕ) : held capacity before ([] : List (List β)) = before :=
  rfl

@[simp] theorem held_cons (capacity before : ℕ) (piece : List β) (rest : List (List β)) :
    held capacity before (piece :: rest)
      = held capacity (heldNext capacity before piece.length) rest := rfl

theorem held_append (capacity before : ℕ) (a b : List (List β)) :
    held capacity before (a ++ b) = held capacity (held capacity before a) b :=
  List.foldl_append

/-- A write puts at most its own bytes into the buffer. -/
theorem heldNext_le (capacity before length : ℕ) :
    heldNext capacity before length ≤ before + length := by
  unfold heldNext
  split
  · exact Nat.zero_le _
  · split
    · exact Nat.le_add_left _ _
    · exact le_rfl

/-- The buffer never holds more than fits. -/
theorem heldNext_le_capacity {capacity before : ℕ} (h : before ≤ capacity) (length : ℕ) :
    heldNext capacity before length ≤ capacity := by
  unfold heldNext
  split
  · exact Nat.zero_le _
  · split <;> omega

theorem held_le_capacity {capacity before : ℕ} (h : before ≤ capacity) (pieces : List (List β)) :
    held capacity before pieces ≤ capacity := by
  induction pieces generalizing before with
  | nil => exact h
  | cons piece rest ih => exact ih (heldNext_le_capacity h piece.length)

/-- So do pieces: what was handed over never gets less. -/
theorem held_le (capacity before : ℕ) (pieces : List (List β)) :
    held capacity before pieces ≤ before + pieces.flatten.length := by
  induction pieces generalizing before with
  | nil => exact le_rfl
  | cons piece rest ih =>
    have hrest := ih (heldNext capacity before piece.length)
    have hpiece := heldNext_le capacity before piece.length
    rw [held_cons, List.flatten_cons, List.length_append]
    omega

/-! ## What a writer denotes

A writer is either in order or has failed for good. -/

/-- **A writer that has not failed**: its file and its buffer hold everything
that was written, and its file has taken no more than it takes in all. -/
structure Holds (w : BufWriter β) (total : ℕ) (written : List β) (held : ℕ) : Prop where
  /-- The file and the buffer together are what was written. -/
  bytes : w.file ++ w.buffer = written
  /-- What the file has taken and what it still takes add up. -/
  room : w.file.length + w.room = total
  /-- How much the buffer holds. -/
  buffered : w.buffer.length = held

/-- **A writer whose file has failed**: the file holds as much of what was
written as it takes. -/
structure Failed (w : BufWriter β) (total : ℕ) (written : List β) : Prop where
  /-- The file was cut off where it stopped taking bytes. -/
  file : w.file = written.take total
  /-- It takes none any more. -/
  room : w.room = 0

variable {w : BufWriter β} {total held : ℕ} {written : List β}

/-- What a failed file holds does not change with what would come after. -/
theorem Failed.append (h : w.Failed total written) (hshort : total ≤ written.length)
    (more : List β) : w.Failed total (written ++ more) where
  file := by rw [h.file, List.take_append_of_le_length hshort]
  room := h.room

/-- Handing bytes to the file that follow everything in it. -/
theorem put_spec (hfile : w.file.length + w.room = total) (bytes : List β) :
    ((w.put bytes).2 = true ↔ w.file.length + bytes.length ≤ total)
      ∧ ((w.put bytes).2 = true → (w.put bytes).1.file = w.file ++ bytes
        ∧ (w.put bytes).1.file.length + (w.put bytes).1.room = total)
      ∧ ((w.put bytes).2 = false → (w.put bytes).1.Failed total (w.file ++ bytes)) := by
  refine ⟨?_, ?_, ?_⟩
  · rw [put, decide_eq_true_iff]
    omega
  · intro hok
    have hfits : bytes.length ≤ w.room := of_decide_eq_true hok
    have htake : bytes.take w.room = bytes := List.take_of_length_le hfits
    simp only [put, htake, true_and, List.length_append]
    omega
  · intro hfails
    have hover : ¬bytes.length ≤ w.room := of_decide_eq_false hfails
    have hroom : total - w.file.length = w.room := by omega
    refine ⟨?_, ?_⟩
    · show w.file ++ bytes.take w.room = (w.file ++ bytes).take total
      have hall : w.file.take total = w.file := List.take_of_length_le (by omega)
      rw [List.take_append, hroom, hall]
    · show w.room - bytes.length = 0
      omega

/-- A flush succeeds if and only if the file takes everything written, and
then the buffer is empty. -/
theorem Holds.flush (h : w.Holds total written held) :
    (w.flush.2 = true ↔ written.length ≤ total)
      ∧ (w.flush.2 = true → w.flush.1.Holds total written 0)
      ∧ (w.flush.2 = false → w.flush.1.Failed total written) := by
  have hlength : w.file.length + w.buffer.length = written.length := by
    rw [← h.bytes, List.length_append]
  obtain ⟨hiff, hok, hfails⟩ :=
    put_spec (w := { w with buffer := w.buffer.drop w.room }) h.room w.buffer
  rw [hlength] at hiff
  refine ⟨hiff, ?_, ?_⟩
  · intro hflush
    obtain ⟨hfile, hroom⟩ := hok hflush
    have hfits : w.buffer.length ≤ w.room := of_decide_eq_true hflush
    have hempty : w.buffer.drop w.room = [] := List.drop_eq_nil_of_le hfits
    refine ⟨?_, hroom, ?_⟩
    · show w.flush.1.file ++ w.buffer.drop w.room = written
      rw [hempty, List.append_nil]
      exact hfile.trans h.bytes
    · show (w.buffer.drop w.room).length = 0
      rw [hempty]
      rfl
  · intro hflush
    have hfailed := hfails hflush
    rw [h.bytes] at hfailed
    exact hfailed

/-- What has left the buffer is within what the file takes. -/
theorem Holds.handed_le (h : w.Holds total written held) : written.length ≤ total + held := by
  have hroom := h.room
  have hheld := h.buffered
  rw [← h.bytes, List.length_append]
  omega

/-- **A write fails exactly when what was handed over by then is more than the
file takes.** -/
theorem Holds.writeAll {capacity : ℕ} (h : w.Holds total written held) (hfits : held ≤ capacity)
    (bytes : List β) :
    ((w.writeAll capacity bytes).2 = true
        ↔ (written ++ bytes).length ≤ total + heldNext capacity held bytes.length)
      ∧ ((w.writeAll capacity bytes).2 = true → (w.writeAll capacity bytes).1.Holds total
        (written ++ bytes) (heldNext capacity held bytes.length))
      ∧ ((w.writeAll capacity bytes).2 = false →
        (w.writeAll capacity bytes).1.Failed total (written ++ bytes)) := by
  -- with the buffer empty, the rest of the write
  have hdirect : ∀ v : BufWriter β, v.Holds total written 0 →
      ((v.put bytes).2 = true ↔ (written ++ bytes).length ≤ total)
        ∧ ((v.put bytes).2 = true → (v.put bytes).1.Holds total (written ++ bytes) 0)
        ∧ ((v.put bytes).2 = false → (v.put bytes).1.Failed total (written ++ bytes)) := by
    intro v hv
    have hempty : v.buffer = [] := List.eq_nil_of_length_eq_zero hv.buffered
    have hfile : v.file = written := by
      have hbytes := hv.bytes
      rw [hempty, List.append_nil] at hbytes
      exact hbytes
    obtain ⟨hiff, hok, hfails⟩ := put_spec hv.room bytes
    rw [hfile] at hiff hok hfails
    rw [List.length_append]
    refine ⟨hiff, fun hput => ⟨?_, (hok hput).2, hv.buffered⟩, hfails⟩
    show (v.put bytes).1.file ++ v.buffer = written ++ bytes
    rw [hempty, List.append_nil]
    exact (hok hput).1
  have hbuffered : w.buffer.length = held := h.buffered
  unfold BufWriter.writeAll
  rw [hbuffered]
  by_cases hlong : capacity ≤ bytes.length
  · have hnext : heldNext capacity held bytes.length = 0 := if_pos hlong
    rw [hnext]
    by_cases hspill : capacity - held < bytes.length
    · obtain ⟨hflush, hok, hfails⟩ := h.flush
      simp only [if_pos hspill, if_pos hlong]
      cases hflushed : w.flush.2 with
      | true => exact hdirect w.flush.1 (hok hflushed)
      | false =>
        have hover : total < written.length := by
          by_contra hle
          rw [hflush.mpr (by omega)] at hflushed
          cases hflushed
        refine ⟨?_, nofun, fun _ => (hfails hflushed).append hover.le bytes⟩
        simp only [Bool.false_eq_true, if_false, false_iff, List.length_append]
        omega
    · -- only an empty buffer has that much room
      have hzero : held = 0 := by omega
      simp only [if_neg hspill, if_pos hlong]
      rw [hzero] at h
      exact hdirect w h
  · by_cases hspill : capacity - held < bytes.length
    · have hnext : heldNext capacity held bytes.length = bytes.length := by
        rw [heldNext, if_neg hlong, if_pos hspill]
      obtain ⟨hflush, hok, hfails⟩ := h.flush
      simp only [if_pos hspill, if_neg hlong, hnext, List.length_append]
      cases hflushed : w.flush.2 with
      | true =>
        have hafter := hok hflushed
        have hempty : w.flush.1.buffer = [] := List.eq_nil_of_length_eq_zero hafter.buffered
        have htotal := hflush.mp hflushed
        refine ⟨⟨fun _ => by omega, fun _ => rfl⟩, fun _ => ⟨?_, hafter.room, ?_⟩, nofun⟩
        · show w.flush.1.file ++ (w.flush.1.buffer ++ bytes) = written ++ bytes
          rw [← List.append_assoc, hafter.bytes]
        · show (w.flush.1.buffer ++ bytes).length = bytes.length
          rw [hempty, List.nil_append]
      | false =>
        have hover : total < written.length := by
          by_contra hle
          rw [hflush.mpr (by omega)] at hflushed
          cases hflushed
        refine ⟨?_, nofun, fun _ => (hfails hflushed).append hover.le bytes⟩
        simp only [Bool.false_eq_true, if_false, false_iff]
        omega
    · have hnext : heldNext capacity held bytes.length = held + bytes.length := by
        rw [heldNext, if_neg hlong, if_neg hspill]
      have hhanded := h.handed_le
      simp only [if_neg hspill, if_neg hlong, hnext, List.length_append, if_true]
      refine ⟨⟨fun _ => by omega, fun _ => trivial⟩, fun _ => ⟨?_, h.room, ?_⟩, nofun⟩
      · show w.file ++ (w.buffer ++ bytes) = written ++ bytes
        rw [← List.append_assoc, h.bytes]
      · show (w.buffer ++ bytes).length = held + bytes.length
        rw [List.length_append, h.buffered]

/-- **So do pieces.** -/
theorem Holds.writePieces {capacity : ℕ} (pieces : List (List β)) {w : BufWriter β} {held : ℕ}
    {written : List β} (h : w.Holds total written held) (hfits : held ≤ capacity) :
    ((w.writePieces capacity pieces).2 = true
        ↔ (written ++ pieces.flatten).length ≤ total + BufWriter.held capacity held pieces)
      ∧ ((w.writePieces capacity pieces).2 = true → (w.writePieces capacity pieces).1.Holds total
        (written ++ pieces.flatten) (BufWriter.held capacity held pieces))
      ∧ ((w.writePieces capacity pieces).2 = false →
        (w.writePieces capacity pieces).1.Failed total (written ++ pieces.flatten)) := by
  induction pieces generalizing w held written with
  | nil =>
    have hhanded := h.handed_le
    simp only [BufWriter.writePieces, List.flatten_nil, List.append_nil, held_nil, true_iff]
    exact ⟨hhanded, fun _ => h, nofun⟩
  | cons piece rest ih =>
    obtain ⟨hiff, hok, hfails⟩ := h.writeAll hfits piece
    unfold BufWriter.writePieces
    rw [List.flatten_cons, ← List.append_assoc, held_cons]
    dsimp only
    cases hwrite : (w.writeAll capacity piece).2 with
    | true =>
      simp only [if_true]
      exact ih (hok hwrite) (heldNext_le_capacity hfits piece.length)
    | false =>
      -- what was handed over does not get less
      have hover : total + heldNext capacity held piece.length < (written ++ piece).length := by
        by_contra hle
        rw [hiff.mpr (by omega)] at hwrite
        cases hwrite
      have hrest := held_le capacity (heldNext capacity held piece.length) rest
      refine ⟨?_, nofun, fun _ => (hfails hwrite).append (by omega) _⟩
      rw [List.length_append]
      simp only [Bool.false_eq_true, if_false, false_iff]
      omega

end BufWriter
