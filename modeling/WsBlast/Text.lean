import WsBlast.Basic

/-!
# Texts

The functions of Rust's `str` the configuration is read with, on the
characters of a text: white space is Unicode's, a text is cut at the first
occurrence of a separator or at all of them.
-/

namespace WsBlast

/-- Whether a character is white space (Unicode's `White_Space`). -/
def isWhiteSpace (c : Char) : Bool :=
  let n := c.toNat
  (9 ≤ n && n ≤ 13) || n == 0x20 || n == 0x85 || n == 0xA0 || n == 0x1680
    || (0x2000 ≤ n && n ≤ 0x200A) || n == 0x2028 || n == 0x2029 || n == 0x202F
    || n == 0x205F || n == 0x3000

/-- Characters without the white space at both ends. -/
def trimChars (chars : List Char) : List Char :=
  ((chars.dropWhile isWhiteSpace).reverse.dropWhile isWhiteSpace).reverse

/-- A text without the white space at both ends. -/
def trim (text : String) : String := String.ofList (trimChars text.toList)

/-- Whether a text is white space throughout. -/
def isBlank (text : String) : Bool := text.toList.all isWhiteSpace

/-- The rest of a text that starts with `start`. -/
def textAfter (start text : String) : Option String :=
  if start.toList <+: text.toList then
    some (String.ofList (text.toList.drop start.toList.length))
  else none

theorem textAfter_eq_some {start text rest : String} :
    textAfter start text = some rest ↔ text = start ++ rest := by
  unfold textAfter
  constructor
  · intro h
    split_ifs at h with hprefix
    obtain ⟨chars, hchars⟩ := hprefix
    rw [← hchars, List.drop_left] at h
    cases h
    exact String.toList_injective (by rw [String.toList_append, String.toList_ofList, hchars])
  · rintro rfl
    rw [String.toList_append, if_pos (List.prefix_append _ _), List.drop_left, String.ofList_toList]

theorem textAfter_append (start rest : String) : textAfter start (start ++ rest) = some rest :=
  textAfter_eq_some.mpr rfl

/-- The beginning of a text that ends with `ending`. -/
def textBefore (ending text : String) : Option String :=
  if ending.toList <:+ text.toList then
    some (String.ofList (text.toList.take (text.toList.length - ending.toList.length)))
  else none

/-- Characters cut at the first `separator`. -/
def cutAt (separator : Char) : List Char → Option (List Char × List Char)
  | [] => none
  | c :: rest =>
    if c = separator then some ([], rest)
    else (cutAt separator rest).map (fun cut => (c :: cut.1, cut.2))

/-- A text cut at its first `separator`. -/
def splitOnce (separator : Char) (text : String) : Option (String × String) :=
  (cutAt separator text.toList).map (fun cut => (String.ofList cut.1, String.ofList cut.2))

/-- A text cut at every `separator`. -/
def splitText (separator : Char) (text : String) : List String :=
  (text.toList.splitOn separator).map String.ofList

/-- A header value as text, which only visible ASCII, the space and the tab
have. -/
def headerText (value : Bytes) : Option String :=
  if value.all (fun b => b = 9 || (32 ≤ b && b < 127)) then
    some (String.ofList (value.map (fun b => Char.ofNat b.toNat)))
  else
    none

end WsBlast
