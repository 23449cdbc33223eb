import WsBlast.Control
import WsBlast.HeaderValues
import WsBlast.ScenarioFile

/-!
# The token that opens an agent

An agent and its coordinators are given a token, which both check
(`validateToken`). The coordinator sends it in the `Authorization` header of a
control connection, and the callback of the agent reads it from there. The
check takes any characters but white space and control characters, and the
callback reads visible ASCII alone: a token opens the agents that have it if
and only if it is ASCII (`token_opens_agent_iff`). No other token does.

The token is checked twice, when the agent and when the coordinator is started,
by the same function. It does not ask for ASCII. Nor does the header library
when the coordinator puts the token into a header: bytes above 127 are allowed
there.
-/

namespace WsBlast

/-! ## The token on its way

From the flag of the coordinator to the value of a header, and from there to
what the callback sees. -/

/-- The shortest token. -/
def minTokenLen : ℕ := 16

/-- Rejects a token that is short, or has white space or a control character
in it. -/
def validateToken (token : String) : Except ConfigError Unit := do
  Checked.reject (token.toList.length < minTokenLen) (.invalidOption
    s!"the agent token must be at least {minTokenLen} characters long; generate one with e.g. `openssl rand -hex 32`")
  Checked.reject (token.toList.any (fun c => isWhiteSpace c || isControl c) = true) (.invalidOption
    "the agent token must not contain whitespace or control characters")

/-- The `Authorization` value of a control connection. -/
def authorizationValue (token : String) : Option Bytes := headerValue ("Bearer " ++ token)

/-- The `Authorization` value as the callback gets it: none when it is not
read as text. -/
def receivedAuthorization (token : String) : Option String :=
  (authorizationValue token).bind headerText

/-! ## What a valid token is

Its characters may all stand in a header, and it is not empty. -/

theorem validateToken_eq_ok {token : String} :
    validateToken token = .ok ()
      ↔ minTokenLen ≤ token.toList.length
        ∧ ∀ c ∈ token.toList, isWhiteSpace c = false ∧ isControl c = false := by
  unfold validateToken
  rw [Checked.check_bind_eq_ok, Checked.reject_eq_ok, Checked.reject_eq_ok, Nat.not_lt,
    Bool.not_eq_true, List.any_eq_false]
  simp only [Bool.or_eq_true, not_or, Bool.not_eq_true]

section Token

variable {token : String} (h : validateToken token = .ok ())
include h

theorem exists_cons_of_validateToken : ∃ c rest, token.toList = c :: rest := by
  obtain ⟨hlength, -⟩ := validateToken_eq_ok.mp h
  cases htoken : token.toList with
  | nil =>
    rw [htoken] at hlength
    exact absurd hlength (by decide)
  | cons c rest => exact ⟨c, rest, rfl⟩

/-- Every valid token can be sent. -/
theorem all_isHeaderChar_bearer :
    ("Bearer ".toList ++ token.toList).all isHeaderChar = true := by
  rw [List.all_append, Bool.and_eq_true]
  refine ⟨by decide, List.all_eq_true.mpr fun c hc => ?_⟩
  obtain ⟨-, hcontrol⟩ := (validateToken_eq_ok.mp h).2 c hc
  unfold isControl at hcontrol
  unfold isHeaderChar
  simp only [Bool.or_eq_false_iff, Bool.and_eq_false_iff, decide_eq_false_iff_not] at hcontrol
  simp only [Bool.or_eq_true, Bool.and_eq_true, decide_eq_true_eq]
  omega

theorem authorizationValue_eq :
    authorizationValue token = some (encodeChars ("Bearer ".toList ++ token.toList)) := by
  unfold authorizationValue
  rw [← String.ofList_toList (s := "Bearer " ++ token), String.toList_append, headerValue_ofList,
    if_pos (all_isHeaderChar_bearer h)]

/-- An ASCII token arrives as it was sent. -/
theorem receivedAuthorization_of_ascii (hascii : ∀ c ∈ token.toList, c.toNat < 128) :
    receivedAuthorization token = some ("Bearer " ++ token) := by
  have hbearer : "Bearer ".toList.all (fun c => decide (c.toNat < 128)) = true := by decide
  have hall : ∀ c ∈ "Bearer ".toList ++ token.toList, c.toNat < 128 := by
    intro c hc
    rcases List.mem_append.mp hc with hc | hc
    · exact of_decide_eq_true (List.all_eq_true.mp hbearer c hc)
    · exact hascii c hc
  unfold receivedAuthorization
  rw [authorizationValue_eq h, Option.bind_some,
    headerText_of_ascii (all_isHeaderChar_bearer h) hall, ← String.toList_append,
    String.ofList_toList]

/-- A token beyond ASCII does not arrive. -/
theorem receivedAuthorization_of_not_ascii (hascii : ¬ ∀ c ∈ token.toList, c.toNat < 128) :
    receivedAuthorization token = none := by
  unfold receivedAuthorization
  rw [authorizationValue_eq h, Option.bind_some]
  exact headerText_of_not_ascii fun hall =>
    hascii fun c hc => hall c (List.mem_append_right _ hc)

/-! ## What the agent reads

The scheme is cut off and the rest trimmed, which leaves a valid token as it is.
-/

omit h in
theorem trimChars_of_ends {chars : List Char} (hhead : ∀ c ∈ chars.head?, isWhiteSpace c = false)
    (hlast : ∀ c ∈ chars.getLast?, isWhiteSpace c = false) : trimChars chars = chars := by
  have hdrop : ∀ {chars : List Char}, (∀ c ∈ chars.head?, isWhiteSpace c = false) →
      chars.dropWhile isWhiteSpace = chars := by
    intro chars hhead
    cases chars with
    | nil => rfl
    | cons c rest => exact List.dropWhile_cons_of_neg (by simp [hhead c rfl])
  unfold trimChars
  rw [hdrop hhead, hdrop (by rwa [List.head?_reverse]), List.reverse_reverse]

/-- The token is read from the value that was sent. -/
theorem bearerToken_bearer : bearerToken ("Bearer " ++ token) = some token := by
  obtain ⟨first, rest, htoken⟩ := exists_cons_of_validateToken h
  -- the token neither begins nor ends with white space
  have hspaces : ∀ c ∈ token.toList, isWhiteSpace c = false :=
    fun c hc => ((validateToken_eq_ok.mp h).2 c hc).1
  have htrim : trimChars token.toList = token.toList :=
    trimChars_of_ends (fun c hc => hspaces c (List.mem_of_mem_head? hc))
      fun c hc => hspaces c (List.mem_of_mem_getLast? hc)
  have hheader : trimChars ("Bearer " ++ token).toList = "Bearer ".toList ++ token.toList := by
    rw [String.toList_append]
    refine trimChars_of_ends ?_ fun c hc => hspaces c (List.mem_of_mem_getLast? ?_)
    · intro c hc
      cases hc
      decide
    · rwa [List.getLast?_append_of_ne_nil _ (by rw [htoken]; exact List.cons_ne_nil _ _)] at hc
  have hspan : ("Bearer ".toList ++ token.toList).span (· ≠ ' ')
      = (['B', 'e', 'a', 'r', 'e', 'r'], ' ' :: token.toList) := by
    have hbearer : "Bearer ".toList = ['B', 'e', 'a', 'r', 'e', 'r', ' '] := by decide
    rw [hbearer]
    rfl
  have hne : token.toList ≠ [] := by
    rw [htoken]
    exact List.cons_ne_nil _ _
  unfold bearerToken
  dsimp only
  rw [hheader, hspan]
  dsimp only
  rw [htrim, if_pos ⟨by decide, hne⟩, String.ofList_toList]

end Token

/-! ## The callback

It answers 401 to a wrong token, and 409 when the agent is busy. -/

/-- Claims the agent, unless it is busy. -/
def claimAgent : ControlProc (Except Refusal Unit) := do
  if ← ControlAsk.compareExchange then pure (.ok ()) else pure (.error conflict)

/-- A connection with the right token claims the agent. -/
theorem callback_of_right {token : String} {authorization : Option String}
    (h : authorization.bind bearerToken = some token) :
    callback token authorization = claimAgent := by
  unfold callback
  rw [h]
  exact if_pos ((tokensMatch_iff token token).mpr rfl)

theorem callback_of_wrong {token : String} {authorization : Option String}
    (h : token ≠ (authorization.bind bearerToken).getD "") :
    callback token authorization = pure (.error unauthorized) := by
  unfold callback
  exact if_neg fun hmatch => h ((tokensMatch_iff _ _).mp hmatch)

/-- **No other token opens an agent.** -/
theorem callback_of_other {token other : String} (h : validateToken token = .ok ())
    (hother : validateToken other = .ok ()) (hne : other ≠ token) :
    callback token (receivedAuthorization other) = pure (.error unauthorized) := by
  obtain ⟨c, rest, htoken⟩ := exists_cons_of_validateToken h
  refine callback_of_wrong ?_
  by_cases hascii : ∀ c ∈ other.toList, c.toNat < 128
  · rw [receivedAuthorization_of_ascii hother hascii, Option.bind_some, bearerToken_bearer hother]
    exact hne.symm
  · rw [receivedAuthorization_of_not_ascii hother hascii]
    intro hempty
    rw [hempty] at htoken
    cases htoken

/-- **The comparison of tokens is equality, and a token opens the agents that
have it and no others,** if and only if the token is ASCII: the callback does
not read any other. -/
theorem token_opens_agent_iff {token : String} (h : validateToken token = .ok ()) :
    ((∀ expected presented, tokensMatch expected presented = true ↔ expected = presented)
      ∧ (receivedAuthorization token).bind bearerToken = some token
      ∧ callback token (receivedAuthorization token) = claimAgent
      ∧ ∀ other, validateToken other = .ok () → other ≠ token →
          callback token (receivedAuthorization other) = pure (.error unauthorized))
      ↔ ∀ c ∈ token.toList, c.toNat < 128 := by
  constructor
  · rintro ⟨-, hread, -⟩
    by_contra hascii
    rw [receivedAuthorization_of_not_ascii h hascii] at hread
    cases hread
  · intro hascii
    have hread : (receivedAuthorization token).bind bearerToken = some token := by
      rw [receivedAuthorization_of_ascii h hascii]
      exact bearerToken_bearer h
    exact ⟨tokensMatch_iff, hread, callback_of_right hread,
      fun other hother hne => callback_of_other h hother hne⟩

theorem token_opens_agent_hex :
    validateToken "0123456789abcdef" = .ok ()
      ∧ (receivedAuthorization "0123456789abcdef").bind bearerToken = some "0123456789abcdef" := by
  have hvalid : validateToken "0123456789abcdef" = .ok () := by rfl
  have hall : "0123456789abcdef".toList.all (fun c => decide (c.toNat < 128)) = true := by
    rfl
  have hascii : ∀ c ∈ "0123456789abcdef".toList, c.toNat < 128 :=
    fun c hc => of_decide_eq_true (List.all_eq_true.mp hall c hc)
  exact ⟨hvalid, ((token_opens_agent_iff hvalid).mpr hascii).2.1⟩

/-- A token with an accent is taken on both sides, and the agent that has it
refuses the coordinator that has it. -/
theorem accented_token_refused :
    validateToken "contraseña-del-agente" = .ok ()
      ∧ authorizationValue "contraseña-del-agente" ≠ none
      ∧ receivedAuthorization "contraseña-del-agente" = none
      ∧ callback "contraseña-del-agente" (receivedAuthorization "contraseña-del-agente")
        = pure (.error unauthorized) := by
  have hvalid : validateToken "contraseña-del-agente" = .ok () := by rfl
  have hall : "contraseña-del-agente".toList.all (fun c => decide (c.toNat < 128)) = false := by
    rfl
  have hascii : ¬ ∀ c ∈ "contraseña-del-agente".toList, c.toNat < 128 := fun hascii =>
    Bool.false_ne_true (hall.symm.trans
      (List.all_eq_true.mpr fun c hc => decide_eq_true (hascii c hc)))
  have hnone := receivedAuthorization_of_not_ascii hvalid hascii
  refine ⟨hvalid, ?_, hnone, ?_⟩
  · rw [authorizationValue_eq hvalid]
    exact Option.some_ne_none _
  · rw [hnone]
    exact callback_of_wrong (by decide)

end WsBlast
