import WsBlast.Base64
import WsBlast.Credentials
import WsBlast.HeaderValues
import WsBlast.JsonReader
import WsBlast.ScenarioFile

/-!
# JSON Web Tokens

`configFromCli` checks the flags, `Signer.signAt` writes a token and
`Signer.headerValue` the header that carries it. A token is three texts of
base64url with dots in between: the JOSE header, the claims and the signature
of the two. How a key signs is a parameter.

A server that splits a token at its dots and decodes the parts gets the claims
of the flags back, with the four that every token has, and a signature of
exactly what it verifies (`token_reads_back`). No character of a token is one
that a header may not have, so that only the key can fail.

A claim that the flags give may be any JSON value, under any name but the four
that wsblast sets. They are kept in the order of an object of the library, and
the four are put beside them when a token is signed: the time of issue, the
same as the first moment of validity, the expiry and a random identifier.
-/

namespace WsBlast

/-! ## Reading base64url

The alphabets correspond, and the padding can be put back from the length. -/

namespace Base64

/-- The character of standard base64 for one of base64url. -/
def standardChar (c : Char) : Char := if c = '-' then '+' else if c = '_' then '/' else c

/-- Decodes base64url without padding, as a server does. -/
def decodeUrl (text : String) : Option Bytes :=
  let chars := text.toList.map standardChar
  decodeChars (chars ++ List.replicate ((4 - chars.length % 4) % 4) '=')

/-- A character of an alphabet is at one of its 64 places. -/
theorem exists_getD_of_mem {letters : List Char} (hlength : letters.length = 64) {c : Char}
    (h : c ∈ letters) : ∃ i < 64, letters.getD i 'A' = c := by
  obtain ⟨i, hi, rfl⟩ := List.getElem_of_mem h
  exact ⟨i, hlength ▸ hi, List.getD_eq_getElem _ _ hi⟩

theorem standardChar_urlChar {c : Char} (h : c ∈ alphabet) :
    standardChar (urlChar c) = c ∧ c ≠ '=' := by
  have hall : ∀ i < 64, standardChar (urlChar (alphabet.getD i 'A')) = alphabet.getD i 'A'
      ∧ alphabet.getD i 'A' ≠ '=' := by decide +kernel
  obtain ⟨i, hi, rfl⟩ := exists_getD_of_mem rfl h
  exact hall i hi

theorem urlChar_mem {c : Char} (h : c ∈ alphabet) : urlChar c ∈ urlAlphabet := by
  obtain ⟨i, hi, rfl⟩ := exists_getD_of_mem rfl h
  rw [← urlAlphabet_getD i hi, List.getD_eq_getElem _ _ hi]
  exact List.getElem_mem hi

/-- **Decoding undoes encoding**, though the padding is not written. -/
theorem decodeUrl_encodeUrl (input : Bytes) : decodeUrl (encodeUrl input) = some input := by
  obtain ⟨body, padding, hbody, hpadding, hchars⟩ := padded_encodeChars input
  have hlength := length_encodeChars input
  rw [hchars, List.length_append, List.length_replicate] at hlength
  have hkept : (body ++ List.replicate padding '=').filter (· ≠ '=') = body := by
    rw [List.filter_append, List.filter_eq_self.mpr fun c hc => ?_]
    · simp
    · exact decide_eq_true (standardChar_urlChar (hbody c hc)).2
  have hback : (body.map urlChar).map standardChar = body := by
    rw [List.map_map]
    exact (List.map_congr_left fun c hc => (standardChar_urlChar (hbody c hc)).1).trans
      (List.map_id _)
  have hfour : (4 - body.length % 4) % 4 = padding := by omega
  unfold decodeUrl encodeUrl
  rw [String.toList_ofList, encodeChars_urlAlphabet, hchars, hkept]
  dsimp only
  rw [hback, hfour, ← hchars]
  exact decodeChars_encodeChars input

/-- What base64url is written with. -/
theorem mem_encodeUrl {input : Bytes} {c : Char} (h : c ∈ (encodeUrl input).toList) :
    c ∈ urlAlphabet := by
  obtain ⟨body, padding, hbody, -, hchars⟩ := padded_encodeChars input
  unfold encodeUrl at h
  rw [String.toList_ofList, encodeChars_urlAlphabet, hchars] at h
  obtain ⟨d, hd, rfl⟩ := List.mem_map.mp h
  obtain ⟨hmem, hne⟩ := List.mem_filter.mp hd
  have hd' : d ∈ body := by
    rcases List.mem_append.mp hmem with hmem | hpad
    · exact hmem
    · exact absurd (List.eq_of_mem_replicate hpad) (of_decide_eq_true hne)
  exact urlChar_mem (hbody d hd')

end Base64

/-! ## The flags

Each flag with its check, and the errors in the words of the source. -/

/-- How a token is signed. -/
inductive JwtAlg where
  | hs256
  | hs384
  | hs512
  | rs256
  | es256
  deriving DecidableEq, Repr

/-- The `alg` header value. -/
def JwtAlg.name : JwtAlg → String
  | hs256 => "HS256"
  | hs384 => "HS384"
  | hs512 => "HS512"
  | rs256 => "RS256"
  | es256 => "ES256"

/-- The `--auth-jwt-*` flags. -/
structure JwtFlags where
  alg : Option JwtAlg := none
  key : Option String := none
  claims : Option String := none
  ttl : Option String := none
  kid : Option String := none
  perConnection : Bool := false

/-- The validated `--auth-jwt-*` options. -/
structure JwtConfig where
  alg : JwtAlg
  keyFile : String
  /-- Added to every token. -/
  claims : List (String × Json)
  ttl : Duration
  kid : Option String
  perConnection : Bool

/-- Why the flags are rejected. -/
inductive JwtFlagError where
  | invalid (error : AuthError)
  | duration (error : ConfigError)

namespace Jwt

/-- Environment variable read for the key file when `--auth-jwt-key` is not
given. -/
def keyFileEnv : String := "WSBLAST_JWT_KEY_FILE"

/-- Token lifetime without `--auth-jwt-ttl`. -/
def defaultTtl : Duration := .ofSecs (5 * 60)

/-- Claims wsblast sets on every token, which `--auth-jwt-claims` must not. -/
def registered : List String := ["iat", "nbf", "exp", "jti"]

/-- Checks a `--auth-jwt-kid` value. -/
def validateKid (kid : String) : Except String Unit :=
  if kid = "" then .error "must not be empty"
  else if kid.toList.any isControl then .error "must contain printable characters only"
  else if trim kid ≠ kid then .error "must not start or end with whitespace"
  else .ok ()

/-- The claims of `--auth-jwt-claims`. -/
def claimsFromCli (serde : Serde) (jsonError : String → String) :
    Option String → Except String (List (String × Json))
  | none => .ok []
  | some json =>
    match serde.fromStr json with
    | some (.object claims) => .ok claims
    | some _ => .error "--auth-jwt-claims must be a JSON object"
    | none => .error s!"--auth-jwt-claims is not valid JSON: {jsonError json}"

/-- The file of the key; `env` is the value of `WSBLAST_JWT_KEY_FILE`. -/
def keyFileFromCli (env flag : Option String) : Except String String :=
  match flag.or (env.filter (· ≠ "")) with
  | some path => .ok path
  | none => .error s!"--auth-type jwt requires --auth-jwt-key FILE or {keyFileEnv}"

/-- The flag must leave out the claims that every token has. -/
def checkRegistered (claims : List (String × Json)) : Except String Unit :=
  match registered.find? (fun claim => (OrderedMap.lookup claims claim).isSome) with
  | some claim => .error (s!"--auth-jwt-claims must not set '{claim}': wsblast sets iat, "
      ++ "nbf and exp from --auth-jwt-ttl and a unique jti on every token")
  | none => .ok ()

/-- The lifetime. -/
def ttlFromCli : Option String → Except ConfigError Duration
  | none => .ok defaultTtl
  | some raw => parseHumanDuration raw

/-- The name of the key. -/
def checkKid : Option String → Except String Unit
  | none => .ok ()
  | some kid => (validateKid kid).mapError fun problem => s!"--auth-jwt-kid {problem}"

/-- A flag that is rejected. -/
def invalid (message : String) : JwtFlagError := .invalid (.invalidAuth message)

/-- Validates the flags. `jsonError` is what the library says of a text that
is not JSON. -/
def configFromCli (serde : Serde) (jsonError : String → String) (env : Option String)
    (flags : JwtFlags) : Except JwtFlagError JwtConfig := do
  let keyFile ← (keyFileFromCli env flags.key).mapError invalid
  let claims ← (claimsFromCli serde jsonError flags.claims).mapError invalid
  (checkRegistered claims).mapError invalid
  let ttl ← (ttlFromCli flags.ttl).mapError .duration
  Checked.reject (ttl < .ofSecs 2) (invalid "--auth-jwt-ttl must be at least 2s")
  (checkKid flags.kid).mapError invalid
  return ⟨flags.alg.getD .hs256, keyFile, claims, ttl, flags.kid, flags.perConnection⟩

/-! ## Signing

The header and the claims as JSON objects, and the token they make. -/

/-- The JOSE header: `alg` and `typ`, plus `kid` when given. -/
def joseHeader (serde : Serde) (alg : JwtAlg) : Option String → String
  | none => "\x7b\"alg\":\"" ++ alg.name ++ "\",\"typ\":\"JWT\"\x7d"
  | some kid =>
    "\x7b\"alg\":\"" ++ alg.name ++ "\",\"typ\":\"JWT\",\"kid\":" ++ serde.toText (.string kid)
      ++ "\x7d"

/-- Signs the tokens of a run. -/
structure Signer where
  /-- The JOSE header, encoded. -/
  header : String
  claims : List (String × Json)
  ttl : Duration
  /-- What the key makes of a text. -/
  key : Bytes → Except String Bytes

/-- A signed token, with the second it expires in. -/
structure SignedToken where
  token : String
  expires : ℕ
  deriving DecidableEq

namespace Signer

/-- The signer for a key that was read. -/
def new (serde : Serde) (config : JwtConfig) (key : Bytes → Except String Bytes) : Signer where
  header := Base64.encodeUrl (textBytes (joseHeader serde config.alg config.kid))
  claims := config.claims
  ttl := config.ttl
  key := key

variable (signer : Signer) (serde : Serde)

/-- The second in which a token issued at `now` expires. -/
def expiresAt (now : ℕ) : ℕ := min (now + signer.ttl / Duration.ofSecs 1) (2 ^ 64 - 1)

/-- The claims of a token issued at `now`. -/
def claimsAt (jti : Bytes) (now : ℕ) : List (String × Json) :=
  let claims := Json.setField "iat" (.number (toString now)) signer.claims
  let claims := Json.setField "nbf" (.number (toString now)) claims
  let claims := Json.setField "exp" (.number (toString (signer.expiresAt now))) claims
  Json.setField "jti" (.string (Base64.encodeUrl jti)) claims

/-- The first two parts of a token, which are signed. -/
def signingInput (jti : Bytes) (now : ℕ) : String :=
  signer.header ++ "."
    ++ Base64.encodeUrl (textBytes (serde.toText (.object (signer.claimsAt jti now))))

/-- Signs a token issued at `now` (Unix seconds) with a new `jti`, unless the
random number generator has none. -/
def signAt (jti : Option Bytes) (now : ℕ) : Except String SignedToken :=
  match jti with
  | none => .error "the system random number generator failed"
  | some jti =>
    let input := signer.signingInput serde jti now
    match signer.key (textBytes input) with
    | .error _ => .error "signing failed"
    | .ok signature => .ok ⟨input ++ "." ++ Base64.encodeUrl signature, signer.expiresAt now⟩

/-- Signs a token issued at `now` and returns it as the value of header
`name`, with its `exp`. -/
def headerValue (name : String) (jti : Option Bytes) (now : ℕ) : Except String (Bytes × ℕ) := do
  let token ← signer.signAt serde jti now
  let value ← (AuthScheme.static.value name token.token).elim
    (throw "the token is not a valid HTTP header value") pure
  return (value, token.expires)

end Signer

/-! ## What a server reads

A token is cut at its dots, which stand in no part of it. -/

/-- What a server reads from a token. -/
structure ReadToken where
  /-- The JOSE header. -/
  jose : String
  claims : List (String × Json)
  /-- What the signature is of. -/
  input : String
  signature : Bytes

/-- Reads a token: three parts of base64url, the first two of them text, and
the claims a JSON object. -/
def readToken (serde : Serde) (token : String) : Option ReadToken :=
  match splitText '.' token with
  | [header, payload, signature] => do
    let jose ← String.fromUTF8? ⟨(← Base64.decodeUrl header).toArray⟩
    let text ← String.fromUTF8? ⟨(← Base64.decodeUrl payload).toArray⟩
    let signature ← Base64.decodeUrl signature
    match serde.fromStr text with
    | some (.object claims) => some ⟨jose, claims, header ++ "." ++ payload, signature⟩
    | _ => none
  | _ => none

/-- A character that base64url is written with is no dot, no space, and one
that a header may have. -/
theorem plain_of_mem {c : Char} (h : c ∈ Base64.urlAlphabet) :
    c ≠ '.' ∧ c.toLower ≠ ' ' ∧ isHeaderChar c = true ∧ c.toNat < 128 := by
  have hall : ∀ i < 64, Base64.urlAlphabet.getD i 'A' ≠ '.'
      ∧ (Base64.urlAlphabet.getD i 'A').toLower ≠ ' '
      ∧ isHeaderChar (Base64.urlAlphabet.getD i 'A') = true
      ∧ (Base64.urlAlphabet.getD i 'A').toNat < 128 := by decide +kernel
  obtain ⟨i, hi, rfl⟩ := Base64.exists_getD_of_mem rfl h
  exact hall i hi

theorem dot_not_mem_encodeUrl (input : Bytes) : '.' ∉ (Base64.encodeUrl input).toList :=
  fun h => (plain_of_mem (Base64.mem_encodeUrl h)).1 rfl

section Parts

variable (header payload signature : Bytes)

/-- Three parts of base64url. -/
def dotted : String :=
  Base64.encodeUrl header ++ "." ++ Base64.encodeUrl payload ++ "." ++ Base64.encodeUrl signature

theorem toList_dotted : (dotted header payload signature).toList
    = (Base64.encodeUrl header).toList
      ++ '.' :: ((Base64.encodeUrl payload).toList
        ++ '.' :: (Base64.encodeUrl signature).toList) := by
  unfold dotted
  simp [String.toList_append]

/-- They are found again. -/
theorem splitText_dotted : splitText '.' (dotted header payload signature)
    = [Base64.encodeUrl header, Base64.encodeUrl payload, Base64.encodeUrl signature] := by
  unfold splitText
  rw [toList_dotted, List.splitOn_append_cons_self_of_not_mem (dot_not_mem_encodeUrl header),
    List.splitOn_append_cons_self_of_not_mem (dot_not_mem_encodeUrl payload),
    List.splitOn_eq_singleton (dot_not_mem_encodeUrl signature)]
  simp only [List.map_cons, List.map_nil, String.ofList_toList]

/-- Every character of a token may be in a header, and none is a space. -/
theorem plain_of_mem_dotted {c : Char} (h : c ∈ (dotted header payload signature).toList) :
    c.toLower ≠ ' ' ∧ isHeaderChar c = true ∧ c.toNat < 128 := by
  have hdot : '.'.toLower ≠ ' ' ∧ isHeaderChar '.' = true ∧ '.'.toNat < 128 := by decide
  have hpart {input : Bytes} (hc : c ∈ (Base64.encodeUrl input).toList) :
      c.toLower ≠ ' ' ∧ isHeaderChar c = true ∧ c.toNat < 128 :=
    (plain_of_mem (Base64.mem_encodeUrl hc)).2
  rw [toList_dotted] at h
  rcases List.mem_append.mp h with hc | hc
  · exact hpart hc
  rcases List.mem_cons.mp hc with rfl | hc
  · exact hdot
  rcases List.mem_append.mp hc with hc | hc
  · exact hpart hc
  rcases List.mem_cons.mp hc with rfl | hc
  · exact hdot
  · exact hpart hc

/-- A token does not say that it is one. -/
theorem startsBearer_dotted : startsBearer (dotted header payload signature) = false := by
  refine decide_eq_false fun hstart => ?_
  have hspace : ' ' ∈ ((dotted header payload signature).toList.take 7).map Char.toLower := by
    rw [hstart]
    decide
  obtain ⟨c, hc, hlower⟩ := List.mem_map.mp hspace
  exact (plain_of_mem_dotted header payload signature (List.mem_of_mem_take hc)).1 hlower

/-- **A token is always a header value**, and is read as it was written. -/
theorem value_dotted (name : String) :
    ∃ value, AuthScheme.static.value name (dotted header payload signature) = some value
      ∧ headerText value
        = some (if name = "authorization" then "Bearer " ++ dotted header payload signature
          else dotted header payload signature) := by
  have hvalue {text : String}
      (h : ∀ c ∈ text.toList, isHeaderChar c = true ∧ c.toNat < 128) :
      ∃ value, headerValue text = some value ∧ headerText value = some text := by
    have hall : text.toList.all isHeaderChar = true := List.all_eq_true.mpr fun c hc => (h c hc).1
    refine ⟨encodeChars text.toList, ?_, ?_⟩
    · rw [← String.ofList_toList (s := text), headerValue_ofList, String.toList_ofList, if_pos hall]
    · rw [headerText_of_ascii hall fun c hc => (h c hc).2, String.ofList_toList]
  have htoken : ∀ c ∈ (dotted header payload signature).toList,
      isHeaderChar c = true ∧ c.toNat < 128 :=
    fun c hc => (plain_of_mem_dotted header payload signature hc).2
  unfold AuthScheme.value AuthScheme.headerText
  rw [startsBearer_dotted]
  by_cases hname : name = "authorization"
  · rw [if_pos ⟨rfl, hname, rfl⟩, if_pos hname]
    refine hvalue fun c hc => ?_
    rw [String.toList_append] at hc
    rcases List.mem_append.mp hc with hbearer | hc
    · have hall : "Bearer ".toList.all (fun c => isHeaderChar c && decide (c.toNat < 128))
          = true := by decide
      have hc := List.all_eq_true.mp hall c hbearer
      rw [Bool.and_eq_true, decide_eq_true_eq] at hc
      exact hc
    · exact htoken c hc
  · rw [if_neg fun h => hname h.2.1, if_neg hname]
    exact hvalue htoken

end Parts

/-! ## The claims of a token

Lookup in the object of a token, and the theorem. -/

section Claims

variable {serde : Serde} {jsonError : String → String} {env : Option String} {flags : JwtFlags}
  {config : JwtConfig}

/-- What the flags that are accepted say of the claims. -/
theorem claims_of_configFromCli
    (hsorted : ∀ text fields, serde.fromStr text = some (.object fields) →
      OrderedMap.Sorted fields)
    (h : configFromCli serde jsonError env flags = .ok config) :
    OrderedMap.Sorted config.claims
      ∧ ∀ claim ∈ registered, OrderedMap.lookup config.claims claim = none := by
  unfold configFromCli at h
  obtain ⟨keyFile, -, h⟩ := Checked.bind_eq_ok.mp h
  obtain ⟨claims, hclaims, h⟩ := Checked.bind_eq_ok.mp h
  obtain ⟨hregistered, h⟩ := Checked.check_bind_eq_ok.mp h
  obtain ⟨ttl, -, h⟩ := Checked.bind_eq_ok.mp h
  obtain ⟨-, h⟩ := Checked.check_bind_eq_ok.mp h
  obtain ⟨-, h⟩ := Checked.check_bind_eq_ok.mp h
  obtain rfl := Checked.pure_eq_ok.mp h
  rw [Checked.mapError_eq_ok] at hclaims hregistered
  refine ⟨?_, fun claim hclaim => ?_⟩
  · unfold claimsFromCli at hclaims
    split at hclaims
    · obtain rfl := Except.ok.inj hclaims
      exact List.Pairwise.nil
    · split at hclaims
      · rename_i hread
        obtain rfl := Except.ok.inj hclaims
        exact hsorted _ _ hread
      · cases hclaims
      · cases hclaims
  · unfold checkRegistered at hregistered
    split at hregistered
    · cases hregistered
    · rename_i hnone
      exact Option.not_isSome_iff_eq_none.mp (List.find?_eq_none.mp hnone claim hclaim)

variable {signer : Signer} {jti : Bytes} {now : ℕ}

/-- **The claims of a token**: those of the signer, and the four that every
token has. -/
theorem lookup_claimsAt (hsorted : OrderedMap.Sorted signer.claims) (claim : String) :
    OrderedMap.lookup (signer.claimsAt jti now) claim
      = if claim = "jti" then some (.string (Base64.encodeUrl jti))
        else if claim = "exp" then some (.number (toString (signer.expiresAt now)))
        else if claim = "nbf" ∨ claim = "iat" then some (.number (toString now))
        else OrderedMap.lookup signer.claims claim := by
  have hiat := hsorted.alter "iat" fun _ => Json.number (toString now)
  have hnbf := hiat.alter "nbf" fun _ => Json.number (toString now)
  have hexp := hnbf.alter "exp" fun _ => Json.number (toString (signer.expiresAt now))
  unfold Signer.claimsAt Json.setField
  rw [OrderedMap.lookup_alter hexp, OrderedMap.lookup_alter hnbf, OrderedMap.lookup_alter hiat,
    OrderedMap.lookup_alter hsorted]
  simp only [eq_comm (b := claim)]
  split_ifs with hjti hexp hnbf hiat hboth hboth <;> simp_all

theorem mem_registered {claim : String} :
    claim ∈ registered ↔ claim = "iat" ∨ claim = "nbf" ∨ claim = "exp" ∨ claim = "jti" := by
  simp [registered]

/-- What the key gives for the first two parts is the third. -/
theorem Signer.signAt_eq {serde : Serde} (signer : Signer) (jti : Bytes) (now : ℕ) :
    signer.signAt serde (some jti) now
      = ((signer.key (textBytes (signer.signingInput serde jti now))).mapError
          fun _ => "signing failed").map fun signature =>
        ⟨signer.signingInput serde jti now ++ "." ++ Base64.encodeUrl signature,
          signer.expiresAt now⟩ := by
  unfold signAt
  dsimp only
  cases signer.key (textBytes (signer.signingInput serde jti now)) <;> rfl

/-- A token that was signed is read as what it was made of. -/
theorem readToken_dotted {serde : Serde} {jose text : String} {claims : List (String × Json)}
    (hreads : serde.fromStr text = some (.object claims)) (signature : Bytes) :
    readToken serde (dotted (textBytes jose) (textBytes text) signature)
      = some ⟨jose, claims,
        Base64.encodeUrl (textBytes jose) ++ "." ++ Base64.encodeUrl (textBytes text),
        signature⟩ := by
  unfold readToken
  rw [splitText_dotted]
  simp only [Base64.decodeUrl_encodeUrl, fromUTF8?_textBytes, hreads, Option.bind_eq_bind,
    Option.bind_some]

/-- **A token is read as what the flags ask for.** With flags that are
accepted, a token fails only with its key. Otherwise it is always a header
value (`Bearer` in front of it where it belongs), and a server that decodes it
reads the JOSE header of the flags, the claims of the flags, none of them
overwritten, with the four that every token has, and a signature of the very
text that it verifies. -/
theorem token_reads_back
    (hsorted : ∀ text fields, serde.fromStr text = some (.object fields) →
      OrderedMap.Sorted fields)
    (hconfig : configFromCli serde jsonError env flags = .ok config)
    {key : Bytes → Except String Bytes} (hsigner : signer = .new serde config key)
    (hreads : serde.fromStr (serde.toText (.object (signer.claimsAt jti now)))
      = some (.object (signer.claimsAt jti now))) (name : String) :
    (∀ failure, key (textBytes (signer.signingInput serde jti now)) = .error failure →
      signer.headerValue serde name (some jti) now = .error "signing failed")
    ∧ ∀ signature, key (textBytes (signer.signingInput serde jti now)) = .ok signature →
      ∃ token value claims,
        signer.headerValue serde name (some jti) now = .ok (value, signer.expiresAt now)
        ∧ headerText value = some (if name = "authorization" then "Bearer " ++ token else token)
        ∧ readToken serde token = some ⟨joseHeader serde config.alg config.kid, claims,
          signer.signingInput serde jti now, signature⟩
        ∧ OrderedMap.lookup claims "iat" = some (.number (toString now))
        ∧ OrderedMap.lookup claims "nbf" = some (.number (toString now))
        ∧ OrderedMap.lookup claims "exp" = some (.number (toString (signer.expiresAt now)))
        ∧ OrderedMap.lookup claims "jti" = some (.string (Base64.encodeUrl jti))
        ∧ ∀ claim v, OrderedMap.lookup config.claims claim = some v →
          OrderedMap.lookup claims claim = some v := by
  subst hsigner
  obtain ⟨hclaims, hfree⟩ := claims_of_configFromCli hsorted hconfig
  refine ⟨fun failure hkey => ?_, fun signature hkey => ?_⟩
  · have hfailed : (Signer.new serde config key).key (textBytes _) = .error failure := hkey
    unfold Signer.headerValue
    rw [Signer.signAt_eq, hfailed]
    rfl
  · obtain ⟨value, hvalue, htext⟩ := value_dotted
      (textBytes (joseHeader serde config.alg config.kid))
      (textBytes (serde.toText (.object ((Signer.new serde config key).claimsAt jti now))))
      signature name
    have hlookup := @lookup_claimsAt (.new serde config key) jti now hclaims
    refine ⟨_, value, _, ?_, htext, readToken_dotted hreads signature, ?_, ?_, ?_, ?_,
      fun claim v hv => ?_⟩
    · have hsigned : (Signer.new serde config key).key (textBytes _) = .ok signature := hkey
      unfold Signer.headerValue
      rw [Signer.signAt_eq, hsigned]
      simp only [Except.mapError, Except.map, Checked.ok_bind]
      have htoken : AuthScheme.static.value name
          ((Signer.new serde config key).signingInput serde jti now ++ "."
            ++ Base64.encodeUrl signature) = some value := hvalue
      rw [htoken]
      rfl
    · simp [hlookup]
    · simp [hlookup]
    · simp [hlookup]
    · simp [hlookup]
    · -- none of the flags' claims is one of the four
      have hother : claim ∉ registered := fun hmem => by
        rw [hfree claim hmem] at hv
        cases hv
      rw [mem_registered] at hother
      push Not at hother
      obtain ⟨hiat, hnbf, hexp, hjti⟩ := hother
      rw [hlookup, if_neg hjti, if_neg hexp, if_neg (not_or.mpr ⟨hnbf, hiat⟩)]
      exact hv

/-- The claims a user gives. -/
def loadClaims : List (String × Json) := [("aud", .string "chat"), ("sub", .string "load")]

/-- Their text. -/
def loadText : String := "\x7b\"aud\": \"chat\", \"sub\": \"load\"\x7d"

/-- Flags that give claims, a lifetime and the name of a key. -/
def loadFlags : JwtFlags :=
  { key := some "key", claims := some loadText, ttl := some "10m", kid := some "k1" }

/-- What they say. -/
def loadConfig : JwtConfig := ⟨.hs256, "key", loadClaims, .ofSecs 600, some "k1", false⟩

/-- A key that signs everything with one byte. -/
def loadSigner (serde : Serde) : Signer := .new serde loadConfig fun _ => .ok [9]

/-- A library that writes compact texts, and reads the flag and the claims of
one token. -/
def oneTokenSerde : Serde where
  toText value := String.ofList value.compact
  fromStr text :=
    let claims := Signer.claimsAt ⟨"", loadClaims, .ofSecs 600, fun _ => .ok []⟩ [7] 100
    if text = loadText then some (.object loadClaims)
    else if text = String.ofList (Json.object claims).compact then some (.object claims)
    else none

/-- The server reads the claims of the flags, next to the token's own. -/
theorem token_reads_back_load :
    ∃ token claims, readToken oneTokenSerde token
        = some ⟨"\x7b\"alg\":\"HS256\",\"typ\":\"JWT\",\"kid\":\"k1\"\x7d", claims,
          (loadSigner oneTokenSerde).signingInput oneTokenSerde [7] 100, [9]⟩
      ∧ OrderedMap.lookup claims "exp" = some (.number (toString 700))
      ∧ OrderedMap.lookup claims "aud" = some (.string "chat")
      ∧ OrderedMap.lookup claims "sub" = some (.string "load") := by
  have hload : OrderedMap.Sorted loadClaims := by unfold OrderedMap.Sorted loadClaims; decide +kernel
  have hsorted (text : String) (fields : List (String × Json))
      (h : oneTokenSerde.fromStr text = some (.object fields)) : OrderedMap.Sorted fields := by
    unfold oneTokenSerde at h
    dsimp only at h
    split_ifs at h
    · obtain rfl := Json.object.inj (Option.some.inj h)
      exact hload
    · obtain rfl := Json.object.inj (Option.some.inj h)
      exact (((hload.alter _ _).alter _ _).alter _ _).alter _ _
  have hconfig : configFromCli oneTokenSerde (fun _ => "") none loadFlags = .ok loadConfig := by
    have hclaims : claimsFromCli oneTokenSerde (fun _ => "") (some loadText) = .ok loadClaims := by
      unfold claimsFromCli oneTokenSerde
      dsimp only
      rw [if_pos rfl]
    have hfree : checkRegistered loadClaims = .ok () := by decide +kernel
    have httl : ttlFromCli (some "10m") = .ok (.ofSecs 600) := by decide +kernel
    have hkid : checkKid (some "k1") = .ok () := by decide +kernel
    unfold configFromCli loadFlags
    dsimp only
    rw [hclaims, httl, hkid]
    simp only [Except.mapError, Checked.ok_bind, hfree]
    rfl
  have hreads : oneTokenSerde.fromStr (oneTokenSerde.toText
      (.object ((loadSigner oneTokenSerde).claimsAt [7] 100)))
        = some (.object ((loadSigner oneTokenSerde).claimsAt [7] 100)) := by
    have hclaims : (loadSigner oneTokenSerde).claimsAt [7] 100
        = Signer.claimsAt ⟨"", loadClaims, .ofSecs 600, fun _ => .ok []⟩ [7] 100 := rfl
    rw [hclaims]
    unfold oneTokenSerde
    dsimp only
    rw [if_neg (by decide +kernel), if_pos rfl]
  obtain ⟨token, -, claims, -, -, hread, -, -, hexp, -, hkept⟩ :=
    (token_reads_back hsorted hconfig rfl hreads "authorization").2 [9] rfl
  exact ⟨token, claims, hread, hexp, hkept "aud" _ rfl, hkept "sub" _ rfl⟩

end Claims

end Jwt

end WsBlast
