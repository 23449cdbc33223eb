import WsBlast.SocketIo

/-!
# Socket.IO packets on the wire

A packet's text is its fields one after the other, the namespace and the id
left out where there is none. What `Packet.parse` reads names a namespace and
has an id that fits 64 bits. A packet whose fields are in range comes back from
its text when its data cannot be taken for an id or a namespace
(`Packet.Legal`, `Packet.parse_encode`).

The text of a packet has no delimiters between its parts but a comma behind the
namespace. What follows the kind is an attachment count if the kind is binary, a
namespace if it begins with a slash, an id if it begins with a digit, and data
otherwise.
-/

namespace WsBlast

/-! ## What is read

Facts about every packet that parsing returns, whatever the text was. -/

/-- A number that is read fits. -/
theorem parseU64_lt {text : String} {n : ℕ} (h : parseU64 text = some n) : n < 2 ^ 64 := by
  have hfits : ∀ digits : List Char,
      (if digits ≠ [] ∧ digits.all Char.isDigit then
        if digits.foldl (fun acc c => acc * 10 + (c.toNat - 48)) 0 < 2 ^ 64 then
          some (digits.foldl (fun acc c => acc * 10 + (c.toNat - 48)) 0) else none
      else none) = some n → n < 2 ^ 64 := by
    intro digits hdigits
    simp only [Option.ite_none_right_eq_some] at hdigits
    obtain ⟨-, hlt, hvalue⟩ := hdigits
    exact Option.some.inj hvalue ▸ hlt
  exact hfits _ h

namespace Packet

/-- A namespace that a packet can name: it starts with `/` and ends before the
first `,`. -/
def Named (ns : String) : Prop := (∃ rest, ns.toList = '/' :: rest) ∧ ',' ∉ ns.toList

theorem named_parseNamespace (rest : List Char) : Named (parseNamespace rest).1 := by
  unfold parseNamespace
  split
  · rename_i after
    have hcut : (String.ofList (List.takeWhile (· != ',') ('/' :: after))).toList
        = '/' :: after.takeWhile (· != ',') := by
      rw [String.toList_ofList]
      rfl
    refine ⟨⟨_, hcut⟩, fun hmem => ?_⟩
    rw [String.toList_ofList] at hmem
    exact absurd (List.mem_takeWhile_imp hmem) (by simp)
  · exact ⟨⟨[], by simp⟩, by simp⟩

/-- What is read comes from `parseRest`. -/
theorem exists_parseRest {text : String} {packet : Packet} (h : parse text = some packet) :
    ∃ kind attachments rest, packet = parseRest kind attachments rest := by
  unfold parse at h
  split at h
  · split at h
    · split at h
      · obtain ⟨⟨attachments, rest⟩, -, rfl⟩ := Option.map_eq_some_iff.mp h
        exact ⟨_, _, _, rfl⟩
      · exact ⟨_, _, _, (Option.some.inj h).symm⟩
    · exact absurd h (Option.some_ne_none packet).symm
  · exact absurd h (Option.some_ne_none packet).symm

/-- A packet that is read names a namespace. -/
theorem named_of_parse {text : String} {packet : Packet} (h : parse text = some packet) :
    Named packet.namespace := by
  obtain ⟨kind, attachments, rest, rfl⟩ := exists_parseRest h
  exact named_parseNamespace rest

/-- An id that is read fits 64 bits. -/
theorem id_lt_of_parse {text : String} {packet : Packet} (h : parse text = some packet) {id : ℕ}
    (hid : packet.id = some id) : id < 2 ^ 64 := by
  obtain ⟨kind, attachments, rest, rfl⟩ := exists_parseRest h
  unfold parseRest at hid
  dsimp only at hid
  split at hid
  · exact absurd hid (Option.some_ne_none id).symm
  · exact parseU64_lt hid

/-! ## What is written

The conditions, and the round trip, part by part from the left. -/

/-- A packet that its text gives back. -/
structure Legal (packet : Packet) : Prop where
  kind : '0' ≤ packet.kind ∧ packet.kind ≤ '6'
  attachments :
    if isBinary packet.kind then packet.attachments ≤ maxAttachments else packet.attachments = 0
  ns : Named packet.namespace
  id : ∀ id ∈ packet.id, id < 2 ^ 64
  digit : ∀ c ∈ packet.data.toList.head?, c.isDigit = false
  /-- Where nothing else follows the kind, data is not taken for a namespace. -/
  slash : packet.namespace = "/" → packet.id = none →
    ∀ c ∈ packet.data.toList.head?, c ≠ '/'

/-- A packet whose data is told apart from what stands before it, whatever
that is. -/
structure WellFormed (packet : Packet) : Prop where
  kind : '0' ≤ packet.kind ∧ packet.kind ≤ '6'
  attachments :
    if isBinary packet.kind then packet.attachments ≤ maxAttachments else packet.attachments = 0
  ns : Named packet.namespace
  id : ∀ id ∈ packet.id, id < 2 ^ 64
  data : ∀ c ∈ packet.data.toList.head?, c.isDigit = false ∧ c ≠ '/'

theorem WellFormed.legal {packet : Packet} (h : packet.WellFormed) : packet.Legal where
  kind := h.kind
  attachments := h.attachments
  ns := h.ns
  id := h.id
  digit c hc := (h.data c hc).1
  slash _ _ c hc := (h.data c hc).2

/-- Characters up to the first that is not a digit. -/
theorem takeWhile_digits {digits rest : List Char} (hdigits : ∀ c ∈ digits, c.isDigit = true)
    (hrest : ∀ c ∈ rest.head?, c.isDigit = false) :
    (digits ++ rest).takeWhile Char.isDigit = digits := by
  rw [List.takeWhile_append_of_pos hdigits]
  cases rest with
  | nil => exact List.append_nil digits
  | cons c rest =>
    rw [List.takeWhile_cons_of_neg (by simp [hrest c rfl]), List.append_nil]

/-- And what follows them. -/
theorem dropWhile_digits {digits rest : List Char} (hdigits : ∀ c ∈ digits, c.isDigit = true)
    (hrest : ∀ c ∈ rest.head?, c.isDigit = false) :
    (digits ++ rest).dropWhile Char.isDigit = rest := by
  rw [List.dropWhile_append_of_pos hdigits]
  cases rest with
  | nil => rfl
  | cons c rest => exact List.dropWhile_cons_of_neg (by simp [hrest c rfl])

/-- The digits of an id. -/
def idDigits (id : Option ℕ) : List Char := ((id.map toString).getD "").toList

theorem isDigit_of_mem_idDigits {id : Option ℕ} {c : Char} (h : c ∈ idDigits id) :
    c.isDigit = true := by
  cases id with
  | none => exact absurd h List.not_mem_nil
  | some id =>
    have hlist : idDigits (some id) = Nat.toDigits 10 id := Nat.toList_repr
    rw [hlist] at h
    exact Nat.isDigit_of_mem_toDigits (by decide) (by decide) h

theorem idDigits_ne_nil (id : ℕ) : idDigits (some id) ≠ [] := by
  have hlist : idDigits (some id) = Nat.toDigits 10 id := Nat.toList_repr
  rw [hlist]
  exact Nat.toDigits_ne_nil

/-- The characters of a namespace and its `,`; the default one is not written. -/
def nsPart (ns : String) : List Char := if ns ≠ "/" then ns.toList ++ [','] else []

theorem parseNamespace_nsPart {ns : String} (h : Named ns) {rest : List Char}
    (hrest : ns = "/" → ∀ c ∈ rest.head?, c ≠ '/') :
    parseNamespace (nsPart ns ++ rest) = (ns, rest) := by
  obtain ⟨⟨path, hpath⟩, hcomma⟩ := h
  unfold nsPart
  split
  · have hcut : ∀ c ∈ ns.toList, (c != ',') = true := fun c hc => by
      rw [bne_iff_ne]
      rintro rfl
      exact hcomma hc
    have hlist : ns.toList ++ [','] ++ rest = '/' :: (path ++ ',' :: rest) := by
      rw [hpath]
      simp
    have hsplit : '/' :: (path ++ ',' :: rest) = ns.toList ++ ',' :: rest := by rw [hpath]; rfl
    rw [hlist]
    show (String.ofList (('/' :: (path ++ ',' :: rest)).takeWhile (· != ',')),
      (('/' :: (path ++ ',' :: rest)).dropWhile (· != ',')).drop 1) = (ns, rest)
    rw [hsplit, List.takeWhile_append_of_pos hcut, List.dropWhile_append_of_pos hcut]
    simp
  · rename_i hdefault
    rw [not_not.mp hdefault, List.nil_append]
    unfold parseNamespace
    split
    · exact absurd rfl (hrest (not_not.mp hdefault) '/' rfl)
    · rfl

theorem parseRest_encoded {packet : Packet} (h : packet.Legal) :
    parseRest packet.kind packet.attachments
      (nsPart packet.namespace ++ (idDigits packet.id ++ packet.data.toList)) = packet := by
  have hdigits : ∀ c ∈ idDigits packet.id, c.isDigit = true :=
    fun c hc => isDigit_of_mem_idDigits hc
  have hslash : packet.namespace = "/" →
      ∀ c ∈ (idDigits packet.id ++ packet.data.toList).head?, c ≠ '/' := by
    rintro hns c hc rfl
    cases hid : packet.id with
    | none =>
      rw [hid] at hc
      exact h.slash hns hid '/' hc rfl
    | some id =>
      have hne := idDigits_ne_nil id
      rw [hid, List.head?_append_of_ne_nil _ hne] at hc
      exact absurd (hdigits '/' (hid ▸ List.mem_of_mem_head? hc)) (by decide)
  unfold parseRest
  rw [parseNamespace_nsPart h.ns hslash]
  dsimp only
  rw [takeWhile_digits hdigits h.digit, dropWhile_digits hdigits h.digit, String.ofList_toList]
  have hid : (if idDigits packet.id = [] then none
      else parseU64 (String.ofList (idDigits packet.id))) = packet.id := by
    cases hpid : packet.id with
    | none => rfl
    | some id =>
      rw [if_neg (idDigits_ne_nil id)]
      show parseU64 (String.ofList (toString id).toList) = some id
      rw [String.ofList_toList, parseU64_toString (h.id id hpid)]
  rw [hid]

/-- The attachments a binary packet announces. -/
theorem parseAttachments_toString {count : ℕ} (h : count ≤ maxAttachments) (rest : List Char) :
    parseAttachments ((toString count).toList ++ '-' :: rest) = some (count, rest) := by
  have hdigits : ∀ c ∈ (toString count).toList, c.isDigit = true := fun c hc =>
    @isDigit_of_mem_idDigits (some count) c hc
  have hdash : ∀ c ∈ ('-' :: rest).head?, c.isDigit = false := by
    rintro c hc
    obtain rfl := Option.some.inj hc
    rfl
  have hfits : count < 2 ^ 64 := lt_of_le_of_lt h (by decide)
  unfold parseAttachments
  rw [takeWhile_digits hdigits hdash, dropWhile_digits hdigits hdash]
  dsimp only
  rw [String.ofList_toList, parseU64_toString hfits]
  exact if_pos h

theorem toList_encode (packet : Packet) :
    (encode packet).toList = '4' :: packet.kind
      :: ((if isBinary packet.kind then (toString packet.attachments).toList ++ ['-'] else [])
        ++ (nsPart packet.namespace ++ (idDigits packet.id ++ packet.data.toList))) := by
  unfold encode nsPart idDigits
  simp only [String.toList_append, apply_ite String.toList]
  simp [List.append_assoc]

/-- **A legal packet comes back from its text.** -/
theorem parse_encode {packet : Packet} (h : packet.Legal) :
    parse (encode packet) = some packet := by
  have hattachments := h.attachments
  have hrest := parseRest_encoded h
  unfold parse
  rw [toList_encode]
  refine (if_pos h.kind).trans ?_
  by_cases hbinary : isBinary packet.kind = true
  · rw [if_pos hbinary] at hattachments
    rw [if_pos hbinary, if_pos hbinary, List.append_assoc, List.singleton_append,
      parseAttachments_toString hattachments]
    exact congrArg some hrest
  · rw [if_neg hbinary] at hattachments
    rw [if_neg hbinary, if_neg hbinary, List.nil_append, ← hattachments]
    exact congrArg some hrest

/-- The id a packet's text carries. -/
def idOf (text : String) : Option ℕ := (parse text).bind (·.id)

theorem idOf_encode {packet : Packet} (h : packet.WellFormed) :
    idOf (encode packet) = packet.id := by
  rw [idOf, parse_encode h.legal]
  rfl

end Packet

end WsBlast
