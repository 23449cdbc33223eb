import WsBlast.Scrape

/-!
# What a scrape is answered

A request head may arrive in any pieces. Its end is found at the first empty
line, wherever the pieces are cut, so the answer is that to the bytes up to
there (`scrape_answered`). Only the limit on the head looks at the pieces: it
is checked between two reads, so a head longer than 8 KiB gets an answer of
its own when the read that brings its end began below the limit, and none is
that is longer than the limit and one more read.

A head ends with the first line feed that another one follows, with a carriage
return between them or without. Both are found by the same scan of the buffer,
which is an instance of `FirstPrefix`.
-/

namespace WsBlast

namespace Prometheus

open FirstPrefix (IsFirst Finds)

/-! ## The end of the head

The first place where an empty line is complete. -/

/-- A head ends in an empty line. -/
def EndsInEmptyLine (head : Bytes) : Prop := [13, 10, 13, 10] <:+ head ∨ [10, 10] <:+ head

theorem finds_headEnd (buf : Bytes) : Finds (headEnd buf) EndsInEmptyLine buf :=
  Finds.or (FirstPrefix.finds_endOf _ _) (FirstPrefix.finds_endOf _ _)

theorem headEnd_append {buf : Bytes} {n : ℕ} (h : headEnd buf = some n) (more : Bytes) :
    headEnd (buf ++ more) = some n :=
  (finds_headEnd _ n).mpr (((finds_headEnd _ n).mp h).append more)

theorem headEnd_take {buf : Bytes} {n : ℕ} (h : headEnd buf = some n) :
    headEnd (buf.take n) = some n :=
  (finds_headEnd _ n).mpr ((finds_headEnd _ n).mp h).take

theorem headEnd_le {buf : Bytes} {n : ℕ} (h : headEnd buf = some n) : n ≤ buf.length :=
  ((finds_headEnd _ n).mp h).le

/-- What is found in a longer buffer is found in a shorter one that holds it. -/
theorem headEnd_of_append {buf more : Bytes} {n : ℕ} (h : headEnd (buf ++ more) = some n)
    (hn : n ≤ buf.length) : headEnd buf = some n :=
  (finds_headEnd _ n).mpr (((finds_headEnd _ n).mp h).of_append hn)

/-! ## Reading it

The loop over the reads, by what the buffer holds before each. -/

/-- What arrives before the client closes or the connection fails. -/
def arrived : List Received → List Chunk
  | .bytes chunk :: rest => chunk :: arrived rest
  | _ => []

/-- The bytes of some reads. -/
def stream (chunks : List Chunk) : Bytes := (chunks.map Subtype.val).flatten

@[simp] theorem stream_nil : stream [] = [] := rfl

@[simp] theorem stream_cons (chunk : Chunk) (rest : List Chunk) :
    stream (chunk :: rest) = chunk ++ stream rest := rfl

theorem stream_append (chunks more : List Chunk) :
    stream (chunks ++ more) = stream chunks ++ stream more := by
  unfold stream
  rw [List.map_append, List.flatten_append]

/-- Between two reads the buffer is full, and the head has not ended. -/
def Overlong (buf : Bytes) (chunks : List Chunk) : Prop :=
  ∃ before ∈ chunks.inits, maxRequestBytes ≤ (buf ++ stream before).length
    ∧ headEnd (buf ++ stream before) = none

instance (buf : Bytes) (chunks : List Chunk) : Decidable (Overlong buf chunks) :=
  inferInstanceAs (Decidable (∃ before ∈ chunks.inits, _))

theorem overlong_nil {buf : Bytes} :
    Overlong buf [] ↔ maxRequestBytes ≤ buf.length ∧ headEnd buf = none := by
  simp [Overlong]

theorem overlong_cons {buf : Bytes} {chunk : Chunk} {rest : List Chunk} :
    Overlong buf (chunk :: rest)
      ↔ maxRequestBytes ≤ buf.length ∧ headEnd buf = none ∨ Overlong (buf ++ chunk) rest := by
  simp [Overlong, List.append_assoc]

/-- A head that has ended is not overlong. -/
theorem not_overlong_of_headEnd {buf : Bytes} {n : ℕ} (h : headEnd buf = some n)
    (chunks : List Chunk) : ¬ Overlong buf chunks := by
  rintro ⟨before, -, -, hnone⟩
  rw [headEnd_append h] at hnone
  exact Option.some_ne_none _ hnone

theorem bufferedHead_of_headEnd {buf : Bytes} {n : ℕ} (h : headEnd buf = some n) :
    bufferedHead buf = some (buf.take n) := by
  rw [bufferedHead, h]

theorem bufferedHead_of_full {buf : Bytes} (hfull : maxRequestBytes ≤ buf.length)
    (hnone : headEnd buf = none) : bufferedHead buf = some buf := by
  rw [bufferedHead, hnone]
  exact if_pos hfull

theorem bufferedHead_of_room {buf : Bytes} (hroom : ¬ maxRequestBytes ≤ buf.length)
    (hnone : headEnd buf = none) : bufferedHead buf = none := by
  rw [bufferedHead, hnone]
  exact if_neg hroom

theorem readHead_of_buffered {buf head : Bytes} (h : bufferedHead buf = some head)
    (received : List Received) : readHead buf received = .head head := by
  cases received with
  | nil => rw [readHead, h, Option.elim_some]
  | cons next rest => cases next <;> rw [readHead, h, Option.elim_some]

theorem readHead_bytes {buf : Bytes} (h : bufferedHead buf = none) (chunk : Chunk)
    (rest : List Received) :
    readHead buf (.bytes chunk :: rest) = readHead (buf ++ chunk) rest := by
  rw [readHead, h, Option.elim_none]

/-- A head that is too long ends the reading before its end. -/
theorem readHead_overlong {received : List Received} {buf : Bytes}
    (h : Overlong buf (arrived received)) :
    ∃ head, readHead buf received = .head head ∧ headEnd head = none := by
  induction received generalizing buf with
  | nil =>
    obtain ⟨hfull, hnone⟩ := overlong_nil.mp h
    exact ⟨buf, readHead_of_buffered (bufferedHead_of_full hfull hnone) [], hnone⟩
  | cons next rest ih =>
    by_cases hnow : maxRequestBytes ≤ buf.length ∧ headEnd buf = none
    · exact ⟨buf, readHead_of_buffered (bufferedHead_of_full hnow.1 hnow.2) _, hnow.2⟩
    · cases next with
      | bytes chunk =>
        have hlater := (overlong_cons.mp h).resolve_left hnow
        have hnone : headEnd buf = none := by
          cases hend : headEnd buf with
          | none => rfl
          | some n => exact absurd hlater (not_overlong_of_headEnd (headEnd_append hend _) _)
        rw [readHead_bytes (bufferedHead_of_room (fun hfull => hnow ⟨hfull, hnone⟩) hnone)]
        exact ih hlater
      | closed => exact absurd (overlong_nil.mp h) hnow
      | failed => exact absurd (overlong_nil.mp h) hnow

/-- A head that is not too long is read up to its end. -/
theorem readHead_found {received : List Received} {buf : Bytes} {n : ℕ}
    (hshort : ¬ Overlong buf (arrived received))
    (h : headEnd (buf ++ stream (arrived received)) = some n) :
    readHead buf received = .head ((buf ++ stream (arrived received)).take n) := by
  induction received generalizing buf with
  | nil =>
    rw [show arrived [] = [] from rfl, stream_nil, List.append_nil] at h ⊢
    exact readHead_of_buffered (bufferedHead_of_headEnd h) []
  | cons next rest ih =>
    cases hend : headEnd buf with
    | some m =>
      obtain rfl := Option.some.inj ((headEnd_append hend _).symm.trans h)
      rw [readHead_of_buffered (bufferedHead_of_headEnd hend),
        List.take_append_of_le_length (headEnd_le hend)]
    | none =>
      cases next with
      | bytes chunk =>
        rw [arrived, overlong_cons, not_or] at hshort
        rw [arrived, stream_cons, ← List.append_assoc] at h ⊢
        rw [readHead_bytes (bufferedHead_of_room (fun hfull => hshort.1 ⟨hfull, hend⟩) hend)]
        exact ih hshort.2 h
      | closed =>
        rw [show arrived (.closed :: rest) = [] from rfl, stream_nil, List.append_nil, hend] at h
        exact absurd h.symm (Option.some_ne_none n)
      | failed =>
        rw [show arrived (.failed :: rest) = [] from rfl, stream_nil, List.append_nil, hend] at h
        exact absurd h.symm (Option.some_ne_none n)

/-- Without the end of the head, and without too much of it, nothing is read. -/
theorem readHead_unfinished {received : List Received} {buf : Bytes}
    (hshort : ¬ Overlong buf (arrived received))
    (h : headEnd (buf ++ stream (arrived received)) = none) (head : Bytes) :
    readHead buf received ≠ .head head := by
  induction received generalizing buf with
  | nil =>
    rw [show arrived [] = [] from rfl, stream_nil, List.append_nil] at h
    rw [readHead, bufferedHead_of_room (fun hfull => hshort (overlong_nil.mpr ⟨hfull, h⟩)) h]
    exact HeadRead.noConfusion
  | cons next rest ih =>
    have hend : headEnd buf = none := by
      cases hend : headEnd buf with
      | none => rfl
      | some n => exact absurd ((headEnd_append hend _).symm.trans h) (Option.some_ne_none n)
    cases next with
    | bytes chunk =>
      rw [arrived, overlong_cons, not_or] at hshort
      rw [arrived, stream_cons, ← List.append_assoc] at h
      rw [readHead_bytes (bufferedHead_of_room (fun hfull => hshort.1 ⟨hfull, hend⟩) hend)]
      exact ih hshort.2 h
    | closed =>
      rw [readHead,
        bufferedHead_of_room (fun hfull => hshort (overlong_nil.mpr ⟨hfull, hend⟩)) hend]
      exact HeadRead.noConfusion
    | failed =>
      rw [readHead,
        bufferedHead_of_room (fun hfull => hshort (overlong_nil.mpr ⟨hfull, hend⟩)) hend]
      exact HeadRead.noConfusion

/-! ## The limit -/

/-- A head within the limit is never too long. -/
theorem not_overlong_of_le {chunks : List Chunk} {n : ℕ} (h : headEnd (stream chunks) = some n)
    (hn : n ≤ maxRequestBytes) : ¬ Overlong [] chunks := by
  rintro ⟨before, hbefore, hfull, hnone⟩
  obtain ⟨after, rfl⟩ := (List.mem_inits _ _).mp hbefore
  rw [stream_append] at h
  rw [List.nil_append] at hfull hnone
  rw [headEnd_of_append h (hn.trans hfull)] at hnone
  exact Option.some_ne_none n hnone

/-- Pieces that fill the buffer have a first one that does, and it holds less
than one read more. -/
theorem exists_full {chunks : List Chunk} (h : maxRequestBytes ≤ (stream chunks).length) :
    ∃ before ∈ chunks.inits, maxRequestBytes ≤ (stream before).length
      ∧ (stream before).length < maxRequestBytes + chunkBytes := by
  induction chunks using List.reverseRecOn with
  | nil => exact absurd h (by decide)
  | append_singleton chunks chunk ih =>
    by_cases hfull : maxRequestBytes ≤ (stream chunks).length
    · obtain ⟨before, hbefore, hbounds⟩ := ih hfull
      refine ⟨before, ?_, hbounds⟩
      rw [List.mem_inits] at hbefore ⊢
      exact hbefore.trans (List.prefix_append _ _)
    · refine ⟨chunks ++ [chunk], (List.mem_inits _ _).mpr List.prefix_rfl, h, ?_⟩
      have hchunk := chunk.2.2
      rw [stream_append, stream_cons, stream_nil, List.append_nil, List.length_append]
      omega

/-- A head that is longer than the limit and one read is always too long. -/
theorem overlong_of_lt {chunks : List Chunk} (hlong : maxRequestBytes ≤ (stream chunks).length)
    (h : ∀ n ∈ headEnd (stream chunks), maxRequestBytes + chunkBytes ≤ n) :
    Overlong [] chunks := by
  obtain ⟨before, hbefore, hfull, hroom⟩ := exists_full hlong
  refine ⟨before, hbefore, by rwa [List.nil_append], ?_⟩
  obtain ⟨after, rfl⟩ := (List.mem_inits _ _).mp hbefore
  rw [List.nil_append]
  cases hend : headEnd (stream before) with
  | none => rfl
  | some n =>
    rw [stream_append] at h
    have hn := h n (headEnd_append hend _)
    have hle := headEnd_le hend
    omega

/-! ## The request line -/

/-- A request for the metrics: a GET of their path, with any query, in any
HTTP/1 version. -/
def AsksForMetrics (head : Bytes) : Prop :=
  ∃ query version : List Char, ' ' ∉ query ∧ ' ' ∉ version
    ∧ (query = [] ∨ query.head? = some '?')
    ∧ requestLine head
      = some ("GET /metrics".toList ++ query ++ " HTTP/1.".toList ++ version)

theorem not_mem_of_mem_splitOn {separator : Char} {text part : List Char}
    (h : part ∈ text.splitOn separator) : separator ∉ part := by
  induction text generalizing part with
  | nil =>
    obtain rfl := List.mem_singleton.mp h
    exact List.not_mem_nil
  | cons c rest ih =>
    rw [List.splitOn_cons_eq_if_modifyHead] at h
    split_ifs at h with hc
    · rcases List.mem_cons.mp h with rfl | hpart
      · exact List.not_mem_nil
      · exact ih hpart
    · obtain ⟨first, others, hsplit⟩ :=
        List.exists_cons_of_ne_nil (List.splitOn_ne_nil separator rest)
      rw [hsplit, List.modifyHead_cons, List.mem_cons] at h
      rcases h with rfl | hpart
      · rw [List.mem_cons, not_or]
        exact ⟨fun heq => hc (beq_iff_eq.mpr heq.symm), ih (hsplit ▸ List.mem_cons_self)⟩
      · exact ih (hsplit ▸ List.mem_cons_of_mem _ hpart)

/-- Three parts, and the two separators between them. -/
theorem splitOn_eq_three {separator : Char} {text first second third : List Char} :
    text.splitOn separator = [first, second, third]
      ↔ (separator ∉ first ∧ separator ∉ second ∧ separator ∉ third)
        ∧ text = first ++ separator :: (second ++ separator :: third) := by
  constructor
  · intro h
    refine ⟨⟨?_, ?_, ?_⟩, ?_⟩
    · exact not_mem_of_mem_splitOn (h ▸ List.mem_cons_self)
    · exact not_mem_of_mem_splitOn (h ▸ List.mem_cons_of_mem _ List.mem_cons_self)
    · exact not_mem_of_mem_splitOn
        (h ▸ List.mem_cons_of_mem _ (List.mem_cons_of_mem _ List.mem_cons_self))
    · have hjoin : [separator].intercalate (text.splitOn separator) = text :=
        List.intercalate_splitOn separator
      rw [h] at hjoin
      rw [← hjoin]
      simp [List.intercalate]
  · rintro ⟨⟨hfirst, hsecond, hthird⟩, rfl⟩
    rw [List.splitOn_append_cons_self_of_not_mem hfirst,
      List.splitOn_append_cons_self_of_not_mem hsecond, List.splitOn_eq_singleton hthird]

/-- What is dropped from the end stops at the first element from there that
stays. -/
theorem rdropWhile_append {drops : Char → Bool} {c : Char} (hc : drops c = false)
    (before after : List Char) :
    (before ++ c :: after).rdropWhile drops = before ++ c :: after.rdropWhile drops := by
  induction after using List.reverseRecOn with
  | nil => exact List.rdropWhile_concat_neg _ _ _ (by rw [hc]; exact Bool.false_ne_true)
  | append_singleton after d ih =>
    rw [← List.cons_append, ← List.append_assoc]
    by_cases hd : drops d = true
    · rw [List.rdropWhile_concat_pos _ _ _ hd, List.rdropWhile_concat_pos _ _ _ hd, ih]
    · rw [List.rdropWhile_concat_neg _ _ _ hd, List.rdropWhile_concat_neg _ _ _ hd,
        List.append_assoc, List.cons_append]

/-- A path ends where the query starts. -/
theorem takeWhile_path {query : List Char} (h : query = [] ∨ query.head? = some '?') :
    ("/metrics".toList ++ query).takeWhile (· ≠ '?') = "/metrics".toList := by
  rw [List.takeWhile_append_of_pos (by simp)]
  rcases h with rfl | hquery
  · rfl
  · obtain ⟨rest, rfl⟩ := List.head?_eq_some_iff.mp hquery
    rw [List.takeWhile_cons_of_neg (by decide), List.append_nil]

theorem line_parts (query version : List Char) :
    "GET /metrics".toList ++ query ++ " HTTP/1.".toList ++ version
      = "GET".toList ++ ' ' :: (("/metrics".toList ++ query) ++ ' '
        :: ("HTTP/1.".toList ++ version)) := by
  simp

/-- **The metrics are sent to who asks for them.** -/
theorem route_eq_metrics_iff (head : Bytes) : route head = .metrics ↔ AsksForMetrics head := by
  constructor
  · intro h
    unfold route at h
    cases hline : requestLine head with
    | none =>
      rw [hline] at h
      exact absurd h (by decide)
    | some line =>
      rw [hline] at h
      dsimp only at h
      split at h
      case h_2 => exact absurd h (by decide)
      case h_1 method target version hsplit =>
        split_ifs at h with hbad hmetrics
        obtain ⟨⟨-, htarget, hversion⟩, htrimmed⟩ := splitOn_eq_three.mp hsplit
        obtain ⟨rest, rfl⟩ := not_not.mp (not_or.mp (not_or.mp hbad).2).2
        obtain ⟨rfl, hpath⟩ := hmetrics
        have hparts :=
          List.takeWhile_append_dropWhile (p := fun c => decide (c ≠ '?')) (l := target)
        rw [hpath] at hparts
        -- carriage returns at the end of the line belong to the version
        have htail :=
          List.rdropWhile_append_rtakeWhile (p := fun c => decide (c = '\r')) (l := line)
        rw [htrimmed, ← hparts] at htail
        refine ⟨target.dropWhile (· ≠ '?'), rest ++ line.rtakeWhile (· = '\r'), ?_, ?_, ?_, ?_⟩
        · exact fun hmem => htarget (List.dropWhile_subset _ hmem)
        · rw [List.mem_append, not_or]
          exact ⟨fun hmem => hversion (List.mem_append_right _ hmem), fun hmem =>
            absurd (List.mem_rtakeWhile_imp hmem) (by decide)⟩
        · have hstart := List.head?_dropWhile_not (fun c => decide (c ≠ '?')) target
          cases hquery : target.dropWhile (· ≠ '?') with
          | nil => exact .inl rfl
          | cons c more =>
            rw [hquery] at hstart
            exact .inr (congrArg some (not_not.mp (of_decide_eq_false hstart)))
        · rw [hline, line_parts]
          conv_lhs => rw [← htail]
          simp
  · rintro ⟨query, version, hquery, hversion, hstart, hline⟩
    have hsplit : (("GET /metrics".toList ++ query ++ " HTTP/1.".toList ++ version).rdropWhile
        (· = '\r')).splitOn ' '
        = ["GET".toList, "/metrics".toList ++ query,
          "HTTP/1.".toList ++ version.rdropWhile (· = '\r')] := by
      have hdot : "GET /metrics".toList ++ query ++ " HTTP/1.".toList ++ version
          = ("GET /metrics".toList ++ query ++ " HTTP/1".toList) ++ '.' :: version := by simp
      rw [hdot, rdropWhile_append (by decide)]
      refine splitOn_eq_three.mpr ⟨⟨by decide, ?_, ?_⟩, ?_⟩
      · rw [List.mem_append, not_or]
        exact ⟨by decide, hquery⟩
      · rw [List.mem_append, not_or]
        exact ⟨by decide, fun hmem => hversion ((List.rdropWhile_prefix _ _).subset hmem)⟩
      · simp
    unfold route
    rw [hline]
    dsimp only
    rw [hsplit]
    dsimp only
    rw [if_neg, if_pos ⟨rfl, takeWhile_path hstart⟩]
    rintro (hempty | htarget | hprefix)
    · exact absurd hempty (by decide)
    · exact htarget (by rw [List.head?_append_of_ne_nil _ (by decide)]; rfl)
    · exact hprefix (List.prefix_append _ _)

/-! ## The answer -/

/-- **A scrape is answered what it asks, however it arrives**: unless the
buffer is full before its end, the answer is that to the bytes up to the first
empty line. A head within 8 KiB never fills it, one that is longer than 9 KiB
always does; the metrics go to who asks for them, and to nobody else. -/
theorem scrape_answered (showSecs : ℚ → String) (snapshot : ExportSnapshot)
    (received : List Received) :
    handle showSecs snapshot received
        = (if Overlong [] (arrived received) then some (respond showSecs snapshot .tooLarge)
          else (headEnd (stream (arrived received))).map fun n =>
            respond showSecs snapshot (route ((stream (arrived received)).take n)))
      ∧ (∀ n ∈ headEnd (stream (arrived received)),
        (n ≤ 8192 → ¬ Overlong [] (arrived received))
          ∧ (9216 ≤ n → Overlong [] (arrived received))
          ∧ (route ((stream (arrived received)).take n) = .metrics
            ↔ AsksForMetrics ((stream (arrived received)).take n))) := by
  constructor
  · by_cases hlong : Overlong [] (arrived received)
    · obtain ⟨head, hread, hnone⟩ := readHead_overlong hlong
      rw [if_pos hlong, handle, hread]
      dsimp only
      rw [if_pos hnone]
    · rw [if_neg hlong, handle]
      cases hend : headEnd (stream (arrived received)) with
      | some n =>
        rw [readHead_found hlong (by rwa [List.nil_append]), List.nil_append]
        dsimp only
        rw [if_neg (by rw [headEnd_take hend]; exact Option.some_ne_none n)]
        rfl
      | none =>
        have hno := readHead_unfinished hlong (by rwa [List.nil_append])
        cases hread : readHead [] received with
        | head head => exact absurd hread (hno head)
        | closed => rfl
        | failed => rfl
        | timedOut => rfl
  · intro n hn
    refine ⟨not_overlong_of_le hn, fun hlong => ?_, route_eq_metrics_iff _⟩
    refine overlong_of_lt ((Nat.le_trans (by decide) hlong).trans (headEnd_le hn)) fun m hm => ?_
    obtain rfl := Option.some.inj (hn.symm.trans hm)
    exact hlong

end Prometheus

end WsBlast
