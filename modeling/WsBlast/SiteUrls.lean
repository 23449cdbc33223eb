import WsBlast.Lib.FormQuery
import WsBlast.Vetting

/-!
# The URLs of a test site

What the program asks of its URL library is stated in `Urls.Serializes` and
`Urls.Editable`, and the theorems about agents assume no more of it. This
module has a library that keeps both promises and does on its URLs what the
real one does, so that the theorems can be applied to runs whose URLs carry a
path and a query.

The library knows the URLs of one server on this machine. A URL of the site is
its authority, a path and, perhaps, a query (`isUrl`): the path is made of
characters that a URL keeps as they are and has no segment that would be
resolved away, the query of characters that a URL keeps and that a form query
is written with. Such a text is its own serialisation. Texts beyond these are
refused, also where the real library would take them and write them another
way.

The pairs of a query are read and written in the format of
`application/x-www-form-urlencoded` (`FormQuery`), their names and values as
UTF-8; bytes that are no UTF-8 are read with replacement characters. So pairs
that are set come back as they were, whatever characters they have
(`queryPairs_spell`), and what is set in a URL of the site is one again
(`urls_serializes`, `urls_editable`).
-/

namespace WsBlast

namespace Site

/-! ## The parts of a URL

A URL is cut at the end of the authority, which all of them share, and at the
first `?`. The parts are put together again by `spell`. -/

/-- The beginning of the URLs of the site. -/
def authority : List Char := "ws://127.0.0.1:9001".toList

/-- Whether a URL keeps a path as it is: no character is escaped, and no segment
begins with a dot, as those that are resolved do. -/
def isPath (path : List Char) : Bool :=
  path.head? = some '/' && path.all (fun c => c.isAlphanum || "/-._".toList.contains c)
    && (path.splitOn '/').all (fun segment => segment.head? ≠ some '.')

/-- Whether a URL keeps a query as it is, and every character of it can be
one of a form query. -/
def isQuery (query : List Char) : Bool :=
  query.all (fun c => FormQuery.isWritten c || c = '=' || c = '&')

/-- The path of a URL. -/
def pathOf (url : List Char) : List Char := (url.drop authority.length).takeWhile (· ≠ '?')

/-- The query of a URL with its question mark; empty when there is none. -/
def queryOf (url : List Char) : List Char := (url.drop authority.length).dropWhile (· ≠ '?')

/-- Whether a text is a URL of the site. -/
def isUrl (text : List Char) : Bool :=
  authority.isPrefixOf text && isPath (pathOf text) && isQuery (queryOf text).tail

/-- The URL with a path and a query. -/
def spell (path query : List Char) : String := String.ofList (authority ++ path ++ query)

/-- The text of a name or a value. -/
def text (bytes : Bytes) : String :=
  (String.fromUTF8? ⟨bytes.toArray⟩).getD (fromUtf8Lossy bytes)

/-- A query with some pairs. -/
def spellPairs (pairs : List (String × String)) : List Char :=
  '?' :: FormQuery.writePairs (pairs.map fun pair => (textBytes pair.1, textBytes pair.2))

/-- The library of the site. -/
def urls : Urls where
  parse raw := if isUrl raw.toList then .ok raw else .error "not a URL of the site"
  scheme _ := "ws"
  path url := String.ofList (pathOf url.toList)
  queryPairs url :=
    (FormQuery.readPairs (queryOf url.toList).tail).map fun pair => (text pair.1, text pair.2)
  setPath url path :=
    if isPath path.toList then spell path.toList (queryOf url.toList) else url
  setQueryPairs url pairs := spell (pathOf url.toList) (spellPairs pairs)

/-! ## What was put together is found again

The parts of a URL of the site, and the pairs of its query. -/

/-- A path has no question mark. -/
theorem ne_of_mem_path {path : List Char} (h : isPath path = true) :
    ∀ c ∈ path, decide (c ≠ '?') = true := by
  intro c hc
  refine decide_eq_true fun heq => ?_
  unfold isPath at h
  simp only [Bool.and_eq_true, List.all_eq_true] at h
  have hplain := h.1.2 c hc
  rw [heq] at hplain
  exact absurd hplain (by decide)

/-- **The parts of a URL are those it was put together from.** -/
theorem parts_spell {path query : List Char} (hpath : isPath path = true)
    (hquery : query.head? = none ∨ query.head? = some '?') :
    pathOf (spell path query).toList = path ∧ queryOf (spell path query).toList = query := by
  have hrest : (spell path query).toList.drop authority.length = path ++ query := by
    rw [spell, String.toList_ofList, List.append_assoc, List.drop_left]
  have hall := ne_of_mem_path hpath
  have hstop : query.takeWhile (· ≠ '?') = [] ∧ query.dropWhile (· ≠ '?') = query := by
    cases query with
    | nil => exact ⟨rfl, rfl⟩
    | cons c rest =>
      obtain rfl : c = '?' := by simpa using hquery
      exact ⟨List.takeWhile_cons_of_neg (by decide), List.dropWhile_cons_of_neg (by decide)⟩
  unfold pathOf queryOf
  rw [hrest, List.takeWhile_append_of_pos hall, List.dropWhile_append_of_pos hall, hstop.1,
    hstop.2, List.append_nil]
  exact ⟨rfl, rfl⟩

/-- A query begins with its question mark, or is none. -/
theorem head?_queryOf (url : List Char) :
    (queryOf url).head? = none ∨ (queryOf url).head? = some '?' := by
  have hhead := List.head?_dropWhile_not (· ≠ '?') (url.drop authority.length)
  unfold queryOf
  cases hrest : (url.drop authority.length).dropWhile (· ≠ '?') with
  | nil => exact .inl rfl
  | cons c rest =>
    rw [hrest] at hhead
    exact .inr (by simpa using hhead)

theorem isQuery_spellPairs (pairs : List (String × String)) :
    isQuery (spellPairs pairs).tail = true := by
  refine List.all_eq_true.mpr fun c hc => ?_
  have hwritten := FormQuery.mem_writePairs hc
  simpa [or_assoc] using hwritten

/-- What the parts must be for a URL of the site. -/
theorem isUrl_spell {path query : List Char} (hpath : isPath path = true)
    (hhead : query.head? = none ∨ query.head? = some '?') (hquery : isQuery query.tail = true) :
    isUrl (spell path query).toList = true := by
  obtain ⟨hpathOf, hqueryOf⟩ := parts_spell hpath hhead
  have hfront : authority.isPrefixOf (spell path query).toList = true := by
    rw [spell, String.toList_ofList, List.append_assoc, List.isPrefixOf_iff_prefix]
    exact List.prefix_append _ _
  unfold isUrl
  rw [hfront, hpathOf, hqueryOf, hpath, hquery]
  rfl

theorem isTarget_iff {url : String} : urls.IsTarget url ↔ isUrl url.toList = true := by
  refine ⟨fun h => ?_, fun h => ⟨if_pos h, .inl rfl⟩⟩
  by_contra hno
  have hparse : urls.parse url = .error "not a URL of the site" := if_neg hno
  cases hparse.symm.trans h.parse

/-- The parts of a target. -/
theorem parts_of_isTarget {url : String} (h : urls.IsTarget url) :
    isPath (pathOf url.toList) = true ∧ isQuery (queryOf url.toList).tail = true := by
  have hurl := isTarget_iff.mp h
  unfold isUrl at hurl
  simp only [Bool.and_eq_true] at hurl
  exact ⟨hurl.1.2, hurl.2⟩

/-- A name or a value is read as the text it was. -/
theorem text_textBytes (value : String) : text (textBytes value) = value := by
  unfold text
  rw [fromUTF8?_textBytes]
  rfl

/-- **Pairs that are set are read back.** -/
theorem queryPairs_spell {path : List Char} (hpath : isPath path = true)
    (pairs : List (String × String)) : urls.queryPairs (spell path (spellPairs pairs)) = pairs := by
  have hquery : queryOf (spell path (spellPairs pairs)).toList = spellPairs pairs :=
    (parts_spell hpath (.inr rfl)).2
  unfold urls
  dsimp only
  rw [hquery]
  unfold spellPairs
  rw [List.tail_cons, FormQuery.readPairs_writePairs, List.map_map]
  refine (List.map_congr_left fun pair _ => ?_).trans (List.map_id pairs)
  exact Prod.ext (text_textBytes pair.1) (text_textBytes pair.2)

theorem setPath_of_isPath (url : String) {path : String} (h : isPath path.toList = true) :
    urls.setPath url path = spell path.toList (queryOf url.toList) := by
  unfold urls
  exact if_pos h

/-! ## The library keeps its promises

The two promises, proved of the library of the site. -/

theorem urls_serializes : urls.Serializes where
  parse {raw url} h _ := by
    have hraw : isUrl raw.toList = true := by
      by_contra hno
      cases (show urls.parse raw = .error _ from if_neg hno).symm.trans h
    obtain rfl : raw = url := Except.ok.inj ((if_pos hraw).symm.trans h)
    exact isTarget_iff.mpr hraw
  setPath {url} path h := by
    obtain ⟨-, hquery⟩ := parts_of_isTarget h
    show urls.IsTarget (if isPath path.toList then _ else url)
    split_ifs with hpath
    · exact isTarget_iff.mpr (isUrl_spell hpath (head?_queryOf _) hquery)
    · exact h
  setQueryPairs pairs h :=
    isTarget_iff.mpr (isUrl_spell (parts_of_isTarget h).1 (.inr rfl) (isQuery_spellPairs pairs))

theorem urls_editable : urls.Editable where
  path_setPath {url} h := by
    have hpath : isPath defaultPath.toList = true := by decide
    rw [setPath_of_isPath url hpath]
    show String.ofList (pathOf (spell _ _).toList) = _
    rw [(parts_spell hpath (head?_queryOf _)).1, String.ofList_toList]
  path_setQueryPairs pairs h :=
    congrArg String.ofList (parts_spell (parts_of_isTarget h).1 (.inr rfl)).1
  queryPairs_setQueryPairs pairs h := queryPairs_spell (parts_of_isTarget h).1 pairs
  setQueryPairs_again {url} pairs again h := by
    show spell (pathOf (spell (pathOf url.toList) (spellPairs pairs)).toList) _ = _
    rw [(parts_spell (parts_of_isTarget h).1 (.inr rfl)).1]
    rfl

/-- A machine that runs tests of the site. -/
noncomputable def host : Host := { compactHost with urls := urls }

end Site

end WsBlast
