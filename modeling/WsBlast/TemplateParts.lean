import WsBlast.Template

/-!
# What a template is read as

A template is cut at the first two opening braces and the first two closing
ones after them, and so on behind those (`Braced`, `partsFrom_induction`).
Nothing is lost: the spellings of the parts make up the source, and rendering
puts values in place of the placeholders alone (`parsed_without_loss`).

Braces that stand before a placeholder and that nothing closes before it take
its closing braces, and the placeholder is text. `placeholders_filled_iff`
says when this happens.

Parsing never fails: braces that spell no placeholder are text, so that JSON
can be sent without escaping anything. The price is that braces may be taken
together in a way that was not meant. The scan looks for two opening braces and
then for the first two closing ones, and if what is between them is no name,
all of it up to the closing braces is text. Braces of JSON in front of a
placeholder can swallow it in this way, as `{{{seq}}}` does.
-/

namespace WsBlast

namespace Template

/-! ## Pairs of braces -/

/-- Two `brace`s stand next to each other. -/
def HasPair (brace : Char) (text : List Char) : Prop := [brace, brace] <:+: text

theorem hasPair_cons {brace c : Char} {rest : List Char} :
    HasPair brace (c :: rest) ↔ c = brace ∧ rest.head? = some brace ∨ HasPair brace rest := by
  unfold HasPair
  rw [List.infix_cons_iff]
  refine or_congr_left ?_
  cases rest with
  | nil => simp
  | cons d rest =>
    simp only [List.cons_prefix_cons, List.nil_prefix, and_true, List.head?_cons, Option.some.injEq]
    exact and_congr eq_comm eq_comm

theorem not_hasPair_nil {brace : Char} : ¬HasPair brace [] := by
  unfold HasPair
  simp

/-- The next character decides whether a pair starts here. -/
theorem cutAtPair_cons {brace c : Char} {rest : List Char}
    (h : ¬(c = brace ∧ rest.head? = some brace)) :
    cutAtPair brace (c :: rest)
      = (cutAtPair brace rest).map (fun cut => (c :: cut.1, cut.2)) := by
  cases rest with
  | nil => rfl
  | cons d rest => exact if_neg fun hpair => h ⟨hpair.1, congrArg some hpair.2⟩

theorem cutAtPair_pair (brace : Char) (rest : List Char) :
    cutAtPair brace (brace :: brace :: rest) = some ([], rest) := if_pos ⟨rfl, rfl⟩

theorem cutAtPair_eq_none {brace : Char} {text : List Char} (h : cutAtPair brace text = none) :
    ¬HasPair brace text := by
  induction text with
  | nil => exact not_hasPair_nil
  | cons c rest ih =>
    by_cases hpair : c = brace ∧ rest.head? = some brace
    · obtain ⟨rfl, hrest⟩ := hpair
      obtain ⟨rest, rfl⟩ := List.head?_eq_some_iff.mp hrest
      rw [cutAtPair_pair] at h
      cases h
    · rw [cutAtPair_cons hpair] at h
      rw [hasPair_cons, not_or]
      exact ⟨hpair, ih (Option.map_eq_none_iff.mp h)⟩

/-- A text is cut at its first pair. -/
theorem eq_of_cutAtPair {brace : Char} {text before after : List Char}
    (h : cutAtPair brace text = some (before, after)) :
    text = before ++ [brace, brace] ++ after ∧ ¬HasPair brace (before ++ [brace]) := by
  induction text generalizing before with
  | nil => cases h
  | cons c rest ih =>
    by_cases hpair : c = brace ∧ rest.head? = some brace
    · obtain ⟨rfl, hrest⟩ := hpair
      obtain ⟨rest, rfl⟩ := List.head?_eq_some_iff.mp hrest
      rw [cutAtPair_pair] at h
      cases h
      refine ⟨rfl, ?_⟩
      rw [List.nil_append, hasPair_cons]
      simp [not_hasPair_nil]
    · rw [cutAtPair_cons hpair] at h
      obtain ⟨⟨inner, after'⟩, hcut, heq⟩ := Option.map_eq_some_iff.mp h
      obtain ⟨rfl, rfl⟩ := Prod.mk.inj heq
      obtain ⟨rfl, hinner⟩ := ih hcut
      refine ⟨rfl, ?_⟩
      rw [List.cons_append, hasPair_cons, not_or]
      refine ⟨fun hhead => hpair ⟨hhead.1, ?_⟩, hinner⟩
      have hhead := hhead.2
      cases inner <;> exact hhead

theorem cutAtPair_append {brace : Char} {before : List Char}
    (h : ¬HasPair brace (before ++ [brace])) (after : List Char) :
    cutAtPair brace (before ++ [brace, brace] ++ after) = some (before, after) := by
  induction before with
  | nil => exact cutAtPair_pair brace after
  | cons c before ih =>
    rw [List.cons_append, hasPair_cons, not_or] at h
    rw [List.cons_append, List.cons_append, cutAtPair_cons, ih h.2]
    · rfl
    · refine fun hpair => h.1 ⟨hpair.1, ?_⟩
      have hhead := hpair.2
      cases before <;> exact hhead

/-! ## The first braces of a text -/

/-- A name between double braces. -/
def around (before name after : List Char) : List Char :=
  before ++ ['\x7b', '\x7b'] ++ (name ++ ['\x7d', '\x7d'] ++ after)

/-- The first two opening braces of a text stand behind `before`, and the first
two closing ones after them behind `name`. -/
structure Braced (before name : List Char) : Prop where
  opens : ¬HasPair '\x7b' (before ++ ['\x7b'])
  closes : ¬HasPair '\x7d' (name ++ ['\x7d'])

section Parse

variable {vars : List String}

theorem partsFrom_of_braced {before name : List Char} (h : Braced before name) (fuel : ℕ)
    (text after : List Char) :
    partsFrom vars (fuel + 1) text (around before name after)
      = match placeholder vars (String.ofList name) with
        | some part => textPart (text ++ before) ++ part :: partsFrom vars fuel [] after
        | none => partsFrom vars fuel (text ++ around before name []) after := by
  have hopen : cutAtPair '\x7b' (around before name after)
      = some (before, name ++ ['\x7d', '\x7d'] ++ after) := cutAtPair_append h.opens _
  have hclose : cutAtPair '\x7d' (name ++ ['\x7d', '\x7d'] ++ after) = some (name, after) :=
    cutAtPair_append h.closes after
  have hkept : before ++ ['\x7b', '\x7b'] ++ name ++ ['\x7d', '\x7d'] = around before name [] := by
    simp [around]
  rw [partsFrom, hopen]
  dsimp only
  rw [hclose]
  dsimp only
  cases placeholder vars (String.ofList name) with
  | some part => rfl
  | none => exact congrArg (fun kept => partsFrom vars fuel (text ++ kept) after) hkept

/-- **What parsing does.** The text that is left is literal, or is cut at its
first braces, with a placeholder between them or not. -/
theorem partsFrom_induction {motive : List Char → List Char → List Part → Prop}
    (literal : ∀ text rest, motive text rest (textPart (text ++ rest)))
    (found : ∀ text before name after part parts, Braced before name →
      placeholder vars (String.ofList name) = some part → motive [] after parts →
      motive text (around before name after) (textPart (text ++ before) ++ part :: parts))
    (unknown : ∀ text before name after parts, Braced before name →
      placeholder vars (String.ofList name) = none →
      motive (text ++ around before name []) after parts →
      motive text (around before name after) parts)
    (fuel : ℕ) (text rest : List Char) : motive text rest (partsFrom vars fuel text rest) := by
  induction fuel generalizing text rest with
  | zero => exact literal text rest
  | succ fuel ih =>
    cases hopen : cutAtPair '\x7b' rest with
    | none =>
      unfold partsFrom
      rw [hopen]
      exact literal text rest
    | some cut =>
      obtain ⟨before, opened⟩ := cut
      cases hclose : cutAtPair '\x7d' opened with
      | none =>
        unfold partsFrom
        rw [hopen]
        dsimp only
        rw [hclose]
        exact literal text rest
      | some cut =>
        obtain ⟨name, after⟩ := cut
        obtain ⟨rfl, hopens⟩ := eq_of_cutAtPair hopen
        obtain ⟨rfl, hcloses⟩ := eq_of_cutAtPair hclose
        have hbraced : Braced before name := ⟨hopens, hcloses⟩
        show motive text (around before name after) (partsFrom vars (fuel + 1) text
          (around before name after))
        rw [partsFrom_of_braced hbraced]
        cases hname : placeholder vars (String.ofList name) with
        | some part => exact found text before name after part _ hbraced hname (ih [] after)
        | none => exact unknown text before name after _ hbraced hname (ih _ after)

/-! ## Spellings

What was read can be written again, part by part. -/

end Parse

end Template

/-- How a part is written, where `vars` are the variables. -/
def Part.spelling (vars : List String) : Part → String
  | .text literal => literal
  | .seq => "\x7b\x7bseq\x7d\x7d"
  | .timestamp => "\x7b\x7btimestamp\x7d\x7d"
  | .workerId => "\x7b\x7bworker_id\x7d\x7d"
  | .data column => "\x7b\x7bdata." ++ column ++ "\x7d\x7d"
  | .var index => "\x7b\x7b" ++ vars[index]?.getD "" ++ "\x7d\x7d"

/-- Whether a part is literal text. -/
def Part.IsText (part : Part) : Prop := ∃ literal, part = .text literal

/-- A text part as it is, and a placeholder as `value` has it. -/
def Part.fill (value : Part → String) : Part → String
  | .text literal => literal
  | part => value part

namespace Template

/-- Parts as they are written. -/
def spell (vars : List String) (parts : List Part) : String :=
  String.join (parts.map (Part.spelling vars))

/-- The name of a placeholder; `columns` are the columns there can be. -/
def IsPlaceholder (columns : String → Prop) (vars : List String) (name : String) : Prop :=
  name ∈ ["seq", "timestamp", "worker_id"] ∨ name ∈ vars
    ∨ ∃ column, columns column ∧ column ≠ "" ∧ name = "data." ++ column

section Parse

variable {vars : List String}

theorem spelling_of_placeholder {name : String} {part : Part}
    (h : placeholder vars name = some part) :
    part.spelling vars = "\x7b\x7b" ++ name ++ "\x7d\x7d" ∧ ¬part.IsText := by
  unfold placeholder at h
  split_ifs at h with hseq htimestamp hworker
  · cases h
    subst hseq
    exact ⟨rfl, nofun⟩
  · cases h
    subst htimestamp
    exact ⟨rfl, nofun⟩
  · cases h
    subst hworker
    exact ⟨rfl, nofun⟩
  · split at h
    case h_1 index hindex =>
      cases h
      obtain ⟨hlt, hname, -⟩ := List.findIdx?_eq_some_iff_getElem.mp hindex
      refine ⟨?_, nofun⟩
      rw [Part.spelling, List.getElem?_eq_getElem hlt, eq_of_beq hname]
      rfl
    case h_2 =>
      obtain ⟨column, hcolumn, rfl⟩ := Option.map_eq_some_iff.mp h
      obtain ⟨hafter, -⟩ := Option.filter_eq_some_iff.mp hcolumn
      refine ⟨?_, nofun⟩
      rw [textAfter_eq_some.mp hafter, Part.spelling, ← String.append_assoc]
      rfl

/-- A placeholder is recognised by its name. -/
theorem isSome_placeholder {name : String} :
    (placeholder vars name).isSome = true ↔ IsPlaceholder (fun _ => True) vars name := by
  unfold placeholder IsPlaceholder
  split_ifs with hseq htimestamp hworker
  · simp [hseq]
  · simp [htimestamp]
  · simp [hworker]
  · have hbuiltin : name ∉ ["seq", "timestamp", "worker_id"] := by simp [hseq, htimestamp, hworker]
    rw [or_iff_right hbuiltin]
    split
    case h_1 index hindex =>
      obtain ⟨hlt, hname, -⟩ := List.findIdx?_eq_some_iff_getElem.mp hindex
      exact iff_of_true rfl (.inl (eq_of_beq hname ▸ List.getElem_mem hlt))
    case h_2 hindex =>
      have hvar : name ∉ vars := fun hmem => by
        have hne := List.findIdx?_eq_none_iff.mp hindex name hmem
        simp at hne
      rw [or_iff_right hvar, Option.isSome_map, Option.isSome_iff_exists]
      simp only [Option.filter_eq_some_iff, textAfter_eq_some, decide_eq_true_eq, true_and, and_comm]

theorem spell_append (parts more : List Part) :
    spell vars (parts ++ more) = spell vars parts ++ spell vars more := by
  unfold spell
  rw [List.map_append, String.join_append]

theorem spell_cons (part : Part) (parts : List Part) :
    spell vars (part :: parts) = part.spelling vars ++ spell vars parts := by
  unfold spell
  rw [List.map_cons, String.join_cons]

theorem spell_textPart (text : List Char) : spell vars (textPart text) = String.ofList text := by
  unfold textPart
  split_ifs with htext
  · rw [htext]
    rfl
  · rw [spell_cons]
    exact String.append_empty

/-- **Nothing is lost.** -/
theorem spell_partsFrom (fuel : ℕ) (text rest : List Char) :
    spell vars (partsFrom vars fuel text rest) = String.ofList (text ++ rest) := by
  refine partsFrom_induction (motive := fun text rest parts =>
    spell vars parts = String.ofList (text ++ rest)) ?_ ?_ ?_ fuel text rest
  · exact fun text rest => spell_textPart (text ++ rest)
  · intro text before name after part parts hbraced hname ih
    rw [spell_append, spell_cons, spell_textPart, (spelling_of_placeholder hname).1, ih]
    exact String.toList_injective (by simp [around])
  · intro text before name after parts hbraced hname ih
    rw [ih]
    exact congrArg String.ofList (by simp [around])

theorem mem_textPart {text : List Char} {part : Part} (h : part ∈ textPart text) :
    part = .text (String.ofList text) := by
  unfold textPart at h
  split at h
  · exact absurd h List.not_mem_nil
  · exact List.mem_singleton.mp h

theorem ne_empty_of_mem_textPart {text : List Char} {part : Part} (h : part ∈ textPart text) :
    part ≠ .text "" := by
  unfold textPart at h
  split_ifs at h with htext
  · cases h
  · rw [List.mem_singleton] at h
    rw [h]
    intro hpart
    exact htext (String.ofList_injective (Part.text.inj hpart))

/-- No text part is empty. -/
theorem ne_empty_of_mem_partsFrom (fuel : ℕ) (text rest : List Char) :
    ∀ part ∈ partsFrom vars fuel text rest, part ≠ .text "" := by
  refine partsFrom_induction (motive := fun _ _ parts => ∀ part ∈ parts, part ≠ .text "")
    ?_ ?_ ?_ fuel text rest
  · exact fun text rest part => ne_empty_of_mem_textPart
  · intro text before name after part parts hbraced hname ih
    simp only [List.forall_mem_append, List.forall_mem_cons]
    refine ⟨fun _ => ne_empty_of_mem_textPart, ?_, ih⟩
    rintro rfl
    exact (spelling_of_placeholder hname).2 ⟨"", rfl⟩
  · exact fun _ _ _ _ _ _ _ ih => ih

/-- Text parts are apart. -/
theorem isChain_partsFrom (fuel : ℕ) (text rest : List Char) :
    (partsFrom vars fuel text rest).IsChain fun part next => ¬(part.IsText ∧ next.IsText) := by
  refine partsFrom_induction
    (motive := fun _ _ parts => parts.IsChain fun part next => ¬(part.IsText ∧ next.IsText))
    ?_ ?_ ?_ fuel text rest
  · intro text rest
    unfold textPart
    split_ifs
    · exact .nil
    · exact .singleton _
  · intro text before name after part parts hbraced hname ih
    have hpart := (spelling_of_placeholder hname).2
    have hcons : (part :: parts).IsChain fun part next => ¬(part.IsText ∧ next.IsText) :=
      List.isChain_cons.mpr ⟨fun _ _ h => hpart h.1, ih⟩
    unfold textPart
    split_ifs
    · exact hcons
    · exact .cons_cons (fun h => hpart h.2) hcons
  · exact fun _ _ _ _ _ _ _ ih => ih

/-! ## Placeholders in the source

Both directions: what stands behind closed braces is filled in, and what is
filled in stands there. -/

/-- Every two opening braces that stand in front of a placeholder are closed in
front of it; its own first brace can be one of the two. -/
def AllClosed (before : List Char) : Prop :=
  ∀ front mid, before ++ ['\x7b'] = front ++ ['\x7b', '\x7b'] ++ mid → HasPair '\x7d' mid

theorem hasPair_append_pair (brace : Char) (front rest : List Char) :
    HasPair brace (front ++ [brace, brace] ++ rest) := ⟨front, rest, rfl⟩

/-- What stands behind closed braces is closed with them. -/
theorem allClosed_around {before name lead : List Char} :
    AllClosed (around before name lead) ↔ AllClosed lead := by
  constructor
  · intro h front mid hlead
    refine h (around before name front) mid ?_
    unfold around
    simp only [List.append_assoc] at hlead ⊢
    rw [hlead]
  · intro h front mid heq
    have hwhole : (before ++ ['\x7b', '\x7b'] ++ name) ++ (['\x7d', '\x7d'] ++ (lead ++ ['\x7b']))
        = front ++ (['\x7b', '\x7b'] ++ mid) := by
      simpa [around] using heq
    rcases List.append_eq_append_iff.mp hwhole with ⟨inner, -, htail⟩ | ⟨inner, -, hmid⟩
    · -- the two braces start behind the name
      rcases inner with _ | ⟨c, _ | ⟨d, inner⟩⟩
      · simp at htail
      · simp at htail
      · simp only [List.cons_append, List.nil_append, List.cons.injEq] at htail
        exact h inner mid (by rw [htail.2.2, List.append_assoc]; rfl)
    · -- they are closed behind the name at the latest
      rcases inner with _ | ⟨c, _ | ⟨d, inner⟩⟩
      · simp at hmid
      · simp at hmid
      · simp only [List.cons_append, List.nil_append, List.cons.injEq] at hmid
        rw [hmid.2.2]
        simpa using hasPair_append_pair '\x7d' inner (lead ++ ['\x7b'])

/-- The first pair of a text is the pair in front of a name, or stands in front
of that. -/
theorem first_pair {first opened before after : List Char}
    (h : first ++ ['\x7b', '\x7b'] ++ opened = before ++ ['\x7b', '\x7b'] ++ after)
    (hfirst : ¬HasPair '\x7b' (first ++ ['\x7b'])) :
    first = before ∧ opened = after
      ∨ ∃ mid, before ++ ['\x7b'] = first ++ ['\x7b', '\x7b'] ++ mid
        ∧ opened = mid ++ '\x7b' :: after := by
  have hwhole : (before ++ ['\x7b']) ++ ('\x7b' :: after)
      = first ++ (['\x7b', '\x7b'] ++ opened) := by
    simpa using h.symm
  have hoverlap : ∀ rest, first ++ ['\x7b'] ≠ before ++ ['\x7b', '\x7b'] ++ rest := fun rest heq =>
    hfirst (heq ▸ hasPair_append_pair '\x7b' before rest)
  rcases List.append_eq_append_iff.mp hwhole with ⟨inner, rfl, hafter⟩ | ⟨inner, hbefore, hopened⟩
  · exfalso
    rcases inner with _ | ⟨c, inner⟩
    · exact hoverlap [] (by simp)
    · obtain ⟨rfl, -⟩ := List.cons.inj hafter
      exact hoverlap (inner ++ ['\x7b']) (by simp)
  · rcases inner with _ | ⟨c, _ | ⟨d, inner⟩⟩
    · rw [List.append_nil] at hbefore
      exact absurd (by simp [hbefore.symm]) (hoverlap [])
    · simp only [List.cons_append, List.nil_append, List.cons.injEq] at hopened
      obtain ⟨rfl, hopened⟩ := hopened
      exact .inl ⟨(List.append_cancel_right hbefore).symm, hopened.2⟩
    · simp only [List.cons_append, List.nil_append, List.cons.injEq] at hopened
      obtain ⟨rfl, rfl, rfl⟩ := hopened
      exact .inr ⟨inner, by simpa using hbefore, rfl⟩

/-- The brace of a placeholder stands behind what is closed in front of it. -/
theorem exists_lead {before first inner tail : List Char}
    (h : before ++ ['\x7b'] = first ++ ['\x7b', '\x7b'] ++ (inner ++ ['\x7d', '\x7d'] ++ tail)) :
    ∃ lead, tail = lead ++ ['\x7b'] ∧ before = around first inner lead := by
  rcases List.eq_nil_or_concat tail with rfl | ⟨lead, c, rfl⟩
  · have heq : before ++ ['\x7b']
        = (first ++ ['\x7b', '\x7b'] ++ inner ++ ['\x7d']) ++ ['\x7d'] := by simpa using h
    have hlast := (List.append_inj' heq rfl).2
    simp at hlast
  · have heq : before ++ ['\x7b'] = around first inner lead ++ [c] := by simpa [around] using h
    obtain ⟨hlead, hc⟩ := List.append_inj' heq rfl
    obtain rfl := List.singleton_inj.mp hc
    exact ⟨lead, List.concat_eq_append, hlead⟩

/-- **A placeholder in front of which all braces are closed is filled in.** -/
theorem exists_part_of_allClosed {fuel : ℕ} {text before name after : List Char} {part : Part}
    (hfuel : (around before name after).length ≤ fuel)
    (hname : placeholder vars (String.ofList name) = some part)
    (hcloses : ¬HasPair '\x7d' (name ++ ['\x7d'])) (hclosed : AllClosed before) :
    ∃ front back, partsFrom vars fuel text (around before name after) = front ++ part :: back
      ∧ spell vars front = String.ofList (text ++ before) := by
  -- the braces that come first are closed before the placeholder, and the rest is shorter
  induction fuel generalizing text before with
  | zero => simp [around] at hfuel
  | succ fuel ih =>
    cases hopen : cutAtPair '\x7b' (around before name after) with
    | none => exact absurd (hasPair_append_pair '\x7b' before _) (cutAtPair_eq_none hopen)
    | some cut =>
      obtain ⟨first, opened⟩ := cut
      obtain ⟨heq, hfirst⟩ := eq_of_cutAtPair hopen
      rcases first_pair heq.symm hfirst with ⟨rfl, -⟩ | ⟨mid, hbefore, -⟩
      · -- the braces of the placeholder are the first
        rw [partsFrom_of_braced ⟨hfirst, hcloses⟩, hname]
        exact ⟨_, _, rfl, spell_textPart _⟩
      · -- braces in front of it are closed in front of it
        have hmid : HasPair '\x7d' mid := hclosed first mid hbefore
        cases hclose : cutAtPair '\x7d' mid with
        | none => exact absurd hmid (cutAtPair_eq_none hclose)
        | some cut =>
          obtain ⟨inner, lead⟩ := cut
          obtain ⟨rfl, hinner⟩ := eq_of_cutAtPair hclose
          obtain ⟨lead, rfl, rfl⟩ : ∃ lead', lead = lead' ++ ['\x7b']
              ∧ before = around first inner lead' := exists_lead hbefore
          have hrest : around (around first inner lead) name after
              = around first inner (around lead name after) := by simp [around]
          have hlead := allClosed_around.mp hclosed
          have hlength : (around lead name after).length ≤ fuel := by
            rw [hrest] at hfuel
            simp only [around, List.length_append, List.length_cons] at hfuel ⊢
            omega
          rw [hrest, partsFrom_of_braced ⟨hfirst, hinner⟩]
          cases hinside : placeholder vars (String.ofList inner) with
          | some found =>
            obtain ⟨front, back, hparts, hspell⟩ := @ih [] lead hlength hlead
            refine ⟨textPart (text ++ first) ++ found :: front, back, by simp [hparts], ?_⟩
            rw [spell_append, spell_cons, spell_textPart, hspell,
              (spelling_of_placeholder hinside).1]
            exact String.toList_injective (by simp [around])
          | none =>
            obtain ⟨front, back, hparts, hspell⟩ :=
              @ih (text ++ around first inner []) lead hlength hlead
            refine ⟨front, back, hparts, hspell.trans ?_⟩
            exact congrArg String.ofList (by simp [around])

/-- **A placeholder that is filled in stands between double braces, and in front
of it all braces are closed.** -/
theorem exists_around_of_mem (fuel : ℕ) (text rest : List Char) :
    ∀ front part back, partsFrom vars fuel text rest = front ++ part :: back → ¬part.IsText →
      ∃ before name after, rest = around before name after
        ∧ placeholder vars (String.ofList name) = some part
        ∧ spell vars front = String.ofList (text ++ before)
        ∧ ¬HasPair '\x7d' (name ++ ['\x7d']) ∧ AllClosed before := by
  refine partsFrom_induction (motive := fun text rest parts => ∀ front part back,
    parts = front ++ part :: back → ¬part.IsText →
      ∃ before name after, rest = around before name after
        ∧ placeholder vars (String.ofList name) = some part
        ∧ spell vars front = String.ofList (text ++ before)
        ∧ ¬HasPair '\x7d' (name ++ ['\x7d']) ∧ AllClosed before) ?_ ?_ ?_ fuel text rest
  · intro text rest front part back hparts hpart
    have hmem : part ∈ textPart (text ++ rest) := hparts ▸ List.mem_append_right _ List.mem_cons_self
    exact absurd ⟨_, mem_textPart hmem⟩ hpart
  · intro text before name after found parts hbraced hname ih front part back hparts hpart
    -- nothing opens in front of the first braces
    have hclosed : AllClosed before := fun front mid heq =>
      absurd (heq ▸ hasPair_append_pair '\x7b' front mid) hbraced.opens
    have hhere (hfound : found = part) (hfront : front = textPart (text ++ before)) :
        ∃ lead name' after', around before name after = around lead name' after'
          ∧ placeholder vars (String.ofList name') = some part
          ∧ spell vars front = String.ofList (text ++ lead)
          ∧ ¬HasPair '\x7d' (name' ++ ['\x7d']) ∧ AllClosed lead :=
      ⟨before, name, after, rfl, hfound ▸ hname, hfront ▸ spell_textPart _, hbraced.closes, hclosed⟩
    -- the part is behind these braces, between them, or in the text in front of them
    rcases List.append_eq_append_iff.mp hparts with ⟨inner, rfl, hrest⟩ | ⟨inner, htext, hrest⟩
    · cases inner with
      | nil => exact hhere (List.cons.inj hrest).1 (List.append_nil _)
      | cons p inner =>
        obtain ⟨rfl, hinner⟩ := List.cons.inj hrest
        obtain ⟨lead, name', after', rfl, hname', hspell, hcloses, hlead⟩ :=
          ih inner part back hinner hpart
        refine ⟨around before name lead, name', after', by simp [around], hname', ?_, hcloses,
          allClosed_around.mpr hlead⟩
        rw [spell_append, spell_cons, spell_textPart, hspell, (spelling_of_placeholder hname).1]
        exact String.toList_injective (by simp [around])
    · cases inner with
      | nil => exact hhere (List.cons.inj hrest).1.symm (by rw [htext, List.append_nil])
      | cons p inner =>
        obtain ⟨rfl, -⟩ := List.cons.inj hrest
        have hmem : part ∈ textPart (text ++ before) := htext ▸ by simp
        exact absurd ⟨_, mem_textPart hmem⟩ hpart
  · intro text before name after parts hbraced hname ih front part back hparts hpart
    obtain ⟨lead, name', after', rfl, hname', hspell, hcloses, hlead⟩ :=
      ih front part back hparts hpart
    refine ⟨around before name lead, name', after', by simp [around], hname', hspell.trans ?_,
      hcloses, allClosed_around.mpr hlead⟩
    exact congrArg String.ofList (by simp [around])

/-! ## Parsed templates -/

theorem map_fill_of_isText {f : Part → String} (hf : ∀ literal, f (.text literal) = literal) :
    Part.fill f = f := by
  funext part
  cases part with
  | text literal => exact (hf literal).symm
  | _ => rfl

/-- A placeholder that is a part stands in the source. -/
theorem exists_around_of_parse {source : String} {front back : List Part} {part : Part}
    (hparts : (parseWithVars source vars).parts = front ++ part :: back) (hpart : ¬part.IsText) :
    ∃ before name after, source.toList = around before (String.toList name) after
      ∧ placeholder vars name = some part ∧ (spell vars front).toList = before
      ∧ ¬HasPair '\x7d' (name.toList ++ ['\x7d']) ∧ AllClosed before := by
  obtain ⟨before, name, after, hsource, hname, hspell, hcloses, hclosed⟩ :=
    exists_around_of_mem _ [] source.toList front part back hparts hpart
  refine ⟨before, String.ofList name, after, ?_, hname, ?_, ?_, hclosed⟩
  · rw [String.toList_ofList]
    exact hsource
  · rw [hspell, List.nil_append, String.toList_ofList]
  · rwa [String.toList_ofList]

/-- A template without placeholders is its source. -/
theorem render_of_forall_isText {source : String}
    (h : ∀ part ∈ (parseWithVars source vars).parts, part.IsText) (values : Values) :
    (parseWithVars source vars).render values = source := by
  have hspell : spell vars (parseWithVars source vars).parts = source :=
    (spell_partsFrom _ [] source.toList).trans String.ofList_toList
  refine Eq.trans ?_ hspell
  unfold render spell
  refine congrArg String.join (List.map_congr_left fun part hpart => ?_)
  obtain ⟨literal, rfl⟩ := h part hpart
  rfl

/-- **Templates are parsed without loss.** The spellings of the parts make up
the source; there is no empty text and no text next to another; rendering puts
the values in place of the placeholders and keeps the rest, so that a source
without placeholders is rendered as it is. -/
theorem parsed_without_loss (source : String) (vars : List String) :
    String.join ((parseWithVars source vars).parts.map (Part.fill (Part.spelling vars))) = source
      ∧ (∀ part ∈ (parseWithVars source vars).parts, part ≠ .text "")
      ∧ ((parseWithVars source vars).parts.IsChain fun part next => ¬(part.IsText ∧ next.IsText))
      ∧ (∀ values, (parseWithVars source vars).render values
          = String.join ((parseWithVars source vars).parts.map (Part.fill (Part.render values))))
      ∧ ((∀ before name after, source.toList = around before (String.toList name) after →
            ¬HasPair '\x7d' (name.toList ++ ['\x7d']) →
            ¬IsPlaceholder (fun _ => True) vars name) →
          ∀ values, (parseWithVars source vars).render values = source) := by
  refine ⟨?_, ne_empty_of_mem_partsFrom _ _ _, isChain_partsFrom _ _ _, fun values => ?_, ?_⟩
  · rw [map_fill_of_isText fun _ => rfl]
    exact (spell_partsFrom _ [] source.toList).trans String.ofList_toList
  · rw [map_fill_of_isText fun _ => rfl]
    rfl
  · intro hnone values
    refine render_of_forall_isText (fun part hpart => ?_) values
    by_contra htext
    obtain ⟨front, back, hparts⟩ := List.append_of_mem hpart
    obtain ⟨before, name, after, hsource, hname, -, hcloses, -⟩ :=
      exists_around_of_parse hparts htext
    exact hnone before name after hsource hcloses
      (isSome_placeholder.mp (Option.isSome_iff_exists.mpr ⟨part, hname⟩))

/-- The placeholder `name` behind `before` is a part of the template. -/
def FilledIn (source : String) (vars : List String) (before : List Char) (name : String) : Prop :=
  ∃ front part back, (parseWithVars source vars).parts = front ++ part :: back
    ∧ ¬part.IsText ∧ part.spelling vars = "\x7b\x7b" ++ name ++ "\x7d\x7d"
    ∧ (spell vars front).toList = before

/-- Whether there is no brace in a text. -/
def BraceFree (text : String) : Prop := ∀ c ∈ text.toList, c ≠ '\x7b' ∧ c ≠ '\x7d'

theorem IsPlaceholder.imp {columns columns' : String → Prop} {name : String}
    (hcolumns : ∀ column, columns column → columns' column) (h : IsPlaceholder columns vars name) :
    IsPlaceholder columns' vars name := by
  rcases h with h | h | ⟨column, hcolumn, h⟩
  · exact .inl h
  · exact .inr (.inl h)
  · exact .inr (.inr ⟨column, hcolumns column hcolumn, h⟩)

/-- Whether one placeholder of the source is filled in. -/
theorem filledIn_iff {source name : String} {before after : List Char}
    (hsource : source.toList = around before name.toList after)
    (hname : IsPlaceholder (fun _ => True) vars name) :
    FilledIn source vars before name
      ↔ AllClosed before ∧ ¬HasPair '\x7d' (name.toList ++ ['\x7d']) := by
  constructor
  · rintro ⟨front, part, back, hparts, htext, hspelling, rfl⟩
    obtain ⟨_, name', after', -, hname', rfl, hcloses, hclosed⟩ :=
      exists_around_of_parse hparts htext
    have heq : name = name' := by
      have hbraces := hspelling.symm.trans (spelling_of_placeholder hname').1
      rw [String.append_assoc, String.append_assoc] at hbraces
      exact String.append_left_inj _ |>.mp ((String.append_right_inj _).mp hbraces)
    exact ⟨hclosed, heq ▸ hcloses⟩
  · rintro ⟨hclosed, hcloses⟩
    obtain ⟨part, hpart⟩ := Option.isSome_iff_exists.mp (isSome_placeholder.mpr hname)
    obtain ⟨hspelling, htext⟩ := spelling_of_placeholder hpart
    have hname : placeholder vars (String.ofList name.toList) = some part := by
      rwa [String.ofList_toList]
    have hfuel : (around before name.toList after).length ≤ source.toList.length :=
      (congrArg List.length hsource).ge
    obtain ⟨front, back, hparts, hspell⟩ :=
      @exists_part_of_allClosed vars _ [] _ _ _ _ hfuel hname hcloses hclosed
    refine ⟨front, part, back, ?_, htext, hspelling, ?_⟩
    · show partsFrom vars source.toList.length [] source.toList = _
      rw [hsource] at hparts ⊢
      exact hparts
    · rw [hspell, List.nil_append, String.toList_ofList]

/-- **Every placeholder of a source is filled in,** if and only if the braces
that stand in front of one are all closed in front of it, and no name holds the
braces that close it. -/
theorem placeholders_filled_iff (source : String) (vars : List String) :
    (∀ before name after, source.toList = around before (String.toList name) after →
        IsPlaceholder BraceFree vars name → FilledIn source vars before name)
      ↔ ∀ before name after, source.toList = around before (String.toList name) after →
        IsPlaceholder BraceFree vars name →
          AllClosed before ∧ ¬HasPair '\x7d' (name.toList ++ ['\x7d']) := by
  refine forall_congr' fun before => forall_congr' fun name => forall_congr' fun after =>
    forall_congr' fun hsource => forall_congr' fun hname => ?_
  exact filledIn_iff hsource (hname.imp fun _ _ => trivial)

/-- In triple braces the sequence number is text. -/
theorem triple_braces_kept :
    (parseWithVars "\x7b\x7b\x7bseq\x7d\x7d\x7d" []).parts
        = [.text "\x7b\x7b\x7bseq\x7d\x7d\x7d"]
      ∧ "\x7b\x7b\x7bseq\x7d\x7d\x7d".toList = around ['\x7b'] "seq".toList ['\x7d']
      ∧ IsPlaceholder BraceFree [] "seq"
      ∧ ¬FilledIn "\x7b\x7b\x7bseq\x7d\x7d\x7d" [] ['\x7b'] "seq" := by
  have hparts : (parseWithVars "\x7b\x7b\x7bseq\x7d\x7d\x7d" []).parts
      = [.text "\x7b\x7b\x7bseq\x7d\x7d\x7d"] := by decide +kernel
  refine ⟨hparts, by decide +kernel, .inl (by simp), ?_⟩
  rintro ⟨front, part, back, heq, htext, -⟩
  have hmem : part ∈ (parseWithVars "\x7b\x7b\x7bseq\x7d\x7d\x7d" []).parts := by simp [heq]
  rw [hparts, List.mem_singleton] at hmem
  exact htext ⟨_, hmem⟩

end Parse

end Template

end WsBlast
