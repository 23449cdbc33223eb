import WsBlast.WireTrip

/-!
# Credentials

A credential becomes one handshake header before a run starts (`prepareAuth`).
One that does not change is put among the headers of the run; one that is
refreshed is kept beside them, and no header of its name is left there. A
coordinator does this before it divides a run.

A token or a key that is given, a JWT that is signed here, a token that a
command prints and one that an OAuth2 server issues are all sent the same way,
in a header whose name and prefix the user may choose.
-/

namespace WsBlast

/-! ## Resolving a credential

The scheme, what is fetched before the run, and where the header goes. -/

/-- How the credential is sent. -/
inductive AuthScheme where
  /-- A token, sent as `Bearer <token>` in `Authorization` and as is in any
  other header. -/
  | static
  /-- An API key, sent as is. -/
  | apiKey
  deriving DecidableEq, Repr

/-- Where the credential comes from, with what it gives before the run. -/
inductive Credential where
  /-- Given on the command line. -/
  | value (token : String)
  /-- Printed by a command before the run, and during it if it is refreshed. -/
  | command (printed : Except String String) (refreshed : Bool)
  /-- A JWT that is signed before the run, and again before it expires. -/
  | jwt (signed : Except String String)
  /-- Fetched from a token endpoint before the run, and again before it
  expires. -/
  | oauth2 (fetched : Except String String)

/-- The authentication of a handshake. -/
structure AuthConfig where
  scheme : AuthScheme
  /-- Name of the header that carries the credential. -/
  header : String
  credential : Credential

/-- Why a credential is rejected. -/
inductive AuthError where
  | invalidAuth (message : String)
  | authTokenCommand (message : String)
  | authTokenRequest (message : String)
  deriving DecidableEq, Repr

/-- Whether a token says already that it is one. -/
def startsBearer (token : String) : Bool :=
  (token.toList.take 7).map Char.toLower = "bearer ".toList

/-- The text of the header for a token: one that is sent in `Authorization`
gets `Bearer ` in front unless it has it. -/
def AuthScheme.headerText (scheme : AuthScheme) (name token : String) : String :=
  if scheme = .static ∧ name = "authorization" ∧ startsBearer token = false then
    "Bearer " ++ token
  else token

/-- The value of the header for a token; none when it is not a valid one. -/
def AuthScheme.value (scheme : AuthScheme) (name token : String) : Option Bytes :=
  headerValue (scheme.headerText name token)

/-- The value of the header for what a credential gave. -/
def AuthScheme.fetched (scheme : AuthScheme) (name what : String) (token : Except String String) :
    Except String Bytes := do
  match scheme.value name (← token) with
  | some value => return value
  | none => throw s!"{what} is not a valid HTTP header value"

/-- Takes a name out of a header map. The name that was added last takes its
place in the order. -/
def removeHeader (headers : List Header) (name : String) : List Header :=
  match headers.getLast? with
  | none => []
  | some last =>
    if last.name = name ∨ headers.all (fun header => header.name ≠ name) then
      headers.filter (fun header => header.name ≠ name)
    else
      let others := fun header : Header => header.name ≠ name ∧ header.name ≠ last.name
      (headers.takeWhile (fun header => header.name ≠ name)).filter (fun header => others header)
        ++ headers.filter (fun header => header.name = last.name)
        ++ (headers.dropWhile (fun header => header.name ≠ name)).filter (fun header => others header)

/-- Resolves a credential before the run: the headers with it, or without any of
its name and the header that is refreshed. -/
def prepareAuth (auth : AuthConfig) (headers : List Header) :
    Except AuthError (List Header × Option Header) :=
  match headerName auth.header with
  | none => .error (.invalidAuth
      s!"invalid authentication header '{auth.header}': invalid HTTP header name")
  | some name =>
    match auth.credential with
    | .value token =>
      match auth.scheme.value name token with
      | some value => .ok (insertHeader headers ⟨name, value⟩, none)
      | none => .error (.invalidAuth "the credential is not a valid HTTP header value")
    | .command printed refreshed => do
      let value ← (auth.scheme.fetched name "its output" printed).mapError .authTokenCommand
      if refreshed then return (removeHeader headers name, some ⟨name, value⟩)
      else return (insertHeader headers ⟨name, value⟩, none)
    | .jwt signed => do
      let value ← (AuthScheme.static.fetched name "the token" signed).mapError .invalidAuth
      return (removeHeader headers name, some ⟨name, value⟩)
    | .oauth2 fetched => do
      let value ← (AuthScheme.static.fetched name "the access token" fetched).mapError
        .authTokenRequest
      return (removeHeader headers name, some ⟨name, value⟩)

/-- Resolves the authentication of a run. -/
def LoadTestConfig.applyAuth (config : LoadTestConfig) (auth : Option AuthConfig) :
    Except AuthError LoadTestConfig :=
  match auth with
  | none => .ok config
  | some auth => do
    let (headers, live) ← prepareAuth auth config.headers
    return { config with headers, liveAuth := live.or config.liveAuth }

/-! ## What a credential adds -/

theorem mem_insertHeader {headers : List Header} {header other : Header}
    (h : other ∈ insertHeader headers header) : other = header ∨ other ∈ headers := by
  induction headers with
  | nil => exact .inl (List.mem_singleton.mp h)
  | cons first rest ih =>
    unfold insertHeader at h
    split_ifs at h
    · rcases List.mem_cons.mp h with rfl | hmem
      · exact .inl rfl
      · exact .inr (List.mem_cons_of_mem _ (List.mem_of_mem_filter hmem))
    · rcases List.mem_cons.mp h with rfl | hmem
      · exact .inr List.mem_cons_self
      · exact (ih hmem).imp_right (List.mem_cons_of_mem _)

theorem mem_removeHeader {headers : List Header} {name : String} {header : Header}
    (h : header ∈ removeHeader headers name) : header ∈ headers := by
  unfold removeHeader at h
  split at h
  · cases h
  · split_ifs at h
    · exact List.mem_of_mem_filter h
    · rcases List.mem_append.mp h with h | h
      · rcases List.mem_append.mp h with h | h
        · exact (List.takeWhile_sublist _).subset (List.mem_of_mem_filter h)
        · exact List.mem_of_mem_filter h
      · exact (List.dropWhile_sublist _).subset (List.mem_of_mem_filter h)

section Prepare

variable {auth : AuthConfig} {headers : List Header} {result : List Header × Option Header}

/-- **What a credential is resolved to**: one valid header, among the others or
in their place. -/
theorem prepareAuth_eq_ok (h : prepareAuth auth headers = .ok result) :
    ∃ header : Header, header.Valid
      ∧ (result = (insertHeader headers header, none)
        ∨ result = (removeHeader headers header.name, some header)) := by
  unfold prepareAuth at h
  -- by whether the credential is refreshed
  split at h
  · cases h
  · rename_i name hname
    have hmade : ∀ {scheme : AuthScheme} {token : String} {value : Bytes},
        scheme.value name token = some value → (Header.mk name value).Valid :=
      fun hvalue => ⟨headerName_again hname, _, hvalue⟩
    have hfetched : ∀ {scheme : AuthScheme} {what : String} {token : Except String String}
        {value : Bytes}, scheme.fetched name what token = .ok value →
          (Header.mk name value).Valid := by
      intro scheme what token value hvalue
      obtain ⟨text, -, hvalue⟩ := Checked.bind_eq_ok.mp hvalue
      split at hvalue
      · rename_i bytes hbytes
        cases Checked.pure_eq_ok.mp hvalue
        exact hmade hbytes
      · cases hvalue
    split at h
    · split at h
      · rename_i value hvalue
        cases h
        exact ⟨⟨name, value⟩, hmade hvalue, .inl rfl⟩
      · cases h
    · obtain ⟨value, hvalue, h⟩ := Checked.bind_eq_ok.mp h
      rw [Checked.mapError_eq_ok] at hvalue
      split_ifs at h
      · cases Checked.pure_eq_ok.mp h
        exact ⟨_, hfetched hvalue, .inr rfl⟩
      · cases Checked.pure_eq_ok.mp h
        exact ⟨_, hfetched hvalue, .inl rfl⟩
    · obtain ⟨value, hvalue, h⟩ := Checked.bind_eq_ok.mp h
      rw [Checked.mapError_eq_ok] at hvalue
      cases Checked.pure_eq_ok.mp h
      exact ⟨_, hfetched hvalue, .inr rfl⟩
    · obtain ⟨value, hvalue, h⟩ := Checked.bind_eq_ok.mp h
      rw [Checked.mapError_eq_ok] at hvalue
      cases Checked.pure_eq_ok.mp h
      exact ⟨_, hfetched hvalue, .inr rfl⟩

/-- Authentication keeps the headers of a run valid, and changes nothing
else. -/
theorem applyAuth_eq_ok {config result : LoadTestConfig} {auth : Option AuthConfig}
    (h : config.applyAuth auth = .ok result) (hheaders : ∀ header ∈ config.headers, header.Valid)
    (hlive : ∀ header ∈ config.liveAuth, header.Valid) :
    ∃ headers liveAuth, result = { config with headers, liveAuth }
      ∧ (∀ header ∈ headers, header.Valid) ∧ ∀ header ∈ liveAuth, header.Valid := by
  cases auth with
  | none =>
    cases h
    exact ⟨config.headers, config.liveAuth, rfl, hheaders, hlive⟩
  | some auth =>
    obtain ⟨⟨headers, live⟩, hprepared, h⟩ := Checked.bind_eq_ok.mp h
    cases Checked.pure_eq_ok.mp h
    obtain ⟨header, hvalid, hcases⟩ := prepareAuth_eq_ok hprepared
    rcases hcases with hcase | hcase
    · cases hcase
      refine ⟨_, _, rfl, fun other hother => ?_, hlive⟩
      rcases mem_insertHeader hother with rfl | hmem
      · exact hvalid
      · exact hheaders other hmem
    · cases hcase
      refine ⟨_, _, rfl, fun other hother => hheaders other (mem_removeHeader hother), ?_⟩
      intro other hother
      obtain rfl := Option.some.inj hother
      exact hvalid

end Prepare

end WsBlast
