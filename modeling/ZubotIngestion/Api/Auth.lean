import ZubotIngestion.Api.Http
import ZubotIngestion.Domain.Entities
import ZubotIngestion.Python.Text

/-!
# The authentication middleware

`AuthMiddleware` of `api/middleware/auth.py`. PyJWT is a parameter: it reads a token and accepts
it if the MAC verifies under the key it is given and the token has not expired. The API key branch
asks for a key that is not empty; the token branch does not, so with an unset secret the MAC is
checked under the empty key, which everyone knows.

## Main definitions

* `Jwt`, `Jwt.Lawful`: PyJWT and what is assumed of it.
* `authenticate`, `authDispatch`.
* `Forged`: a token signed with the empty key.

## Main results

* `unsetSecrets_closed_iff`: what gets in while the secrets are unset.
-/

namespace ZubotIngestion

/-! ### PyJWT -/

/-- A token as PyJWT reads it: what is signed, the signature, and the claims. -/
structure SignedToken where
  input : String
  signature : String
  claims : Dict

/-- PyJWT with HS256. -/
structure Jwt where
  /-- The MAC of an input under a key. -/
  mac : String → String → String
  /-- The parts of a well formed token. -/
  read : String → Option SignedToken
  /-- The time an `exp` claim stands for. -/
  expiry : PyVal → Option ℤ
  /-- `jwt.decode(token, key, algorithms=["HS256"])` at a time, without a value where it raises
  `PyJWTError`. -/
  decode : String → String → Timestamp → Option Dict

namespace Jwt

/-- The `exp` claim, if there is one, is in the future. -/
def Unexpired (jwt : Jwt) (claims : Dict) (now : Timestamp) : Prop :=
  ∀ value, claims.get? "exp" = some value → ∃ time, jwt.expiry value = some time ∧ now < time

/-- A token is accepted iff its MAC verifies under the key and it has not expired. -/
def Lawful (jwt : Jwt) : Prop :=
  ∀ token key now claims, jwt.decode token key now = some claims ↔
    ∃ signed, jwt.read token = some signed ∧ signed.claims = claims ∧
      signed.signature = jwt.mac key signed.input ∧ jwt.Unexpired claims now

/-- Whoever knows no secret can sign this token: its MAC is that under the empty key. -/
def Forgeable (jwt : Jwt) (token : String) (claims : Dict) : Prop :=
  ∃ signed, jwt.read token = some signed ∧ signed.claims = claims ∧
    signed.signature = jwt.mac "" signed.input

end Jwt

/-! ### The middleware -/

/-- The secrets of the settings. Both are unset by default. -/
structure AuthSettings where
  zubotIngestionApiKey : String := ""
  wodJwtSecret : String := ""

/-- What the middleware uses. -/
structure AuthEnv where
  settings : AuthSettings
  jwt : Jwt
  py : StrMethods
  /-- `int(text)`, without a value where it raises `ValueError`. -/
  int? : String → Option ℤ
  now : Timestamp

/-- `AUTH_EXEMPT_PATHS`. -/
def authExemptPaths : List String := ["/health", "/metrics", "/docs", "/openapi.json", "/redoc"]

/-- `text.startswith(start)`. -/
def startsWith (start text : String) : Bool := start.toList.isPrefixOf text.toList

/-- `_is_exempt`. -/
def isExempt (path : String) : Bool :=
  authExemptPaths.contains path || startsWith "/docs" path || startsWith "/openapi" path

/-- `_coerce_id`. -/
def coerceId (int? : String → Option ℤ) : Option PyVal → Option ℤ
  | some (.int i) => some i
  | some (.str text) => int? text
  | _ => none

/-- `str(value)`. -/
def strOf (py : StrMethods) : PyVal → String
  | .str text => text
  | value => py.str value

theorem startsWith_append (start text : String) : startsWith start (start ++ text) = true := by
  rw [startsWith, String.toList_append, List.isPrefixOf_iff_prefix]
  exact List.prefix_append _ _

/-- `claims.get(key)`, where `None` is as good as a missing claim. -/
def claim? (claims : Dict) (key : String) : Option PyVal :=
  match claims.get? key with
  | some .none => none
  | value => value

/-- The token behind `Bearer `, if the header has that form. -/
def bearerToken? (request : HttpRequest) : Option String :=
  let authHeader := (request.header? "authorization").getD ""
  if startsWith "Bearer " authHeader then some (String.ofList (authHeader.toList.drop 7)) else none

theorem bearerToken?_of_header {request : HttpRequest} {token : String}
    (h : request.header? "authorization" = some ("Bearer " ++ token)) :
    bearerToken? request = some token := by
  have hdrop : ("Bearer " ++ token).toList.drop 7 = token.toList := by
    rw [String.toList_append]
    exact List.drop_left' (by decide)
  rw [bearerToken?, h, Option.getD_some]
  simp only [startsWith_append, hdrop, if_true, String.ofList_toList]

/-- The caller that accepted claims stand for. -/
def claimsContext (env : AuthEnv) (claims : Dict) : Option AuthContext :=
  (claim? claims "user_id").map fun userId =>
    { userId := strOf env.py userId
      authMethod := .wodToken
      deploymentId := coerceId env.int? (claims.get? "deployment_id")
      nodeId := coerceId env.int? (claims.get? "node_id") }

/-- The request has an API key, and it is the configured one. -/
def HasApiKey (env : AuthEnv) (request : HttpRequest) : Prop :=
  ∃ apiKey, request.header? "x-api-key" = some apiKey ∧ apiKey ≠ "" ∧
    apiKey = env.settings.zubotIngestionApiKey

instance (env : AuthEnv) (request : HttpRequest) : Decidable (HasApiKey env request) :=
  decidable_of_iff (∃ apiKey ∈ request.header? "x-api-key", apiKey ≠ "" ∧
    apiKey = env.settings.zubotIngestionApiKey) Iff.rfl

/-- `_authenticate`. -/
def authenticate (env : AuthEnv) (request : HttpRequest) : Option AuthContext :=
  if HasApiKey env request then
    some { userId := "api", authMethod := .apiKey, deploymentId := none, nodeId := none }
  else
    (bearerToken? request).bind fun token =>
      (env.jwt.decode token env.settings.wodJwtSecret env.now).bind (claimsContext env)

/-- The 401 response. -/
def unauthorized : HttpReply := { status := 401, answeredBy := .auth }

/-- `AuthMiddleware.dispatch`. -/
def authDispatch (env : AuthEnv) : Middleware := fun next request =>
  if isExempt request.path then next request
  else
    match authenticate env request with
    | none => unauthorized
    | some authContext => next { request with authContext := some authContext }

/-! ### Unset secrets -/

/-- The request carries a token that whoever knows no secret can sign, which has not expired and
names a user. -/
def Forged (env : AuthEnv) (request : HttpRequest) : Prop :=
  ∃ token claims, bearerToken? request = some token ∧ env.jwt.Forgeable token claims ∧
    env.jwt.Unexpired claims env.now ∧ (claim? claims "user_id").isSome

/-- The request is turned away with 401, and nothing behind the middleware sees it. -/
def Rejected (env : AuthEnv) (request : HttpRequest) : Prop :=
  authenticate env request = none ∧ ∀ next, authDispatch env next request = unauthorized

/-- The request is let in on its token. -/
def AcceptsToken (env : AuthEnv) (request : HttpRequest) : Prop :=
  ∃ authContext, authenticate env request = some authContext ∧
    authContext.authMethod = .wodToken

section

variable {env : AuthEnv} {request : HttpRequest}

/-- Behind a non-exempt path, being turned away is a matter of the credentials. -/
theorem rejected_iff (hpath : isExempt request.path = false) :
    Rejected env request ↔ authenticate env request = none := by
  refine ⟨fun h => h.1, fun h => ⟨h, fun next => ?_⟩⟩
  rw [authDispatch, hpath, h]
  rfl

/-- No key is configured, so no request has it. -/
theorem not_hasApiKey (hkey : env.settings.zubotIngestionApiKey = "") :
    ¬ HasApiKey env request := by
  rintro ⟨apiKey, -, hne, heq⟩
  exact hne (heq.trans hkey)

theorem authMethod_of_claimsContext {claims : Dict} {authContext : AuthContext}
    (h : claimsContext env claims = some authContext) : authContext.authMethod = .wodToken := by
  obtain ⟨userId, -, rfl⟩ := Option.map_eq_some_iff.mp h
  rfl

/-- A request without the API key is let in iff its token is accepted and names a user. -/
theorem isSome_authenticate_iff (hkey : ¬ HasApiKey env request) :
    (authenticate env request).isSome ↔ ∃ token claims, bearerToken? request = some token ∧
      env.jwt.decode token env.settings.wodJwtSecret env.now = some claims ∧
        (claim? claims "user_id").isSome := by
  rw [authenticate, if_neg hkey]
  constructor
  · intro h
    obtain ⟨authContext, hcontext⟩ := Option.isSome_iff_exists.mp h
    obtain ⟨token, htoken, hdecode⟩ := Option.bind_eq_some_iff.mp hcontext
    obtain ⟨claims, hclaims, huser⟩ := Option.bind_eq_some_iff.mp hdecode
    refine ⟨token, claims, htoken, hclaims, ?_⟩
    obtain ⟨userId, huserId, -⟩ := Option.map_eq_some_iff.mp huser
    rw [huserId, Option.isSome_some]
  · rintro ⟨token, claims, htoken, hclaims, huser⟩
    rwa [htoken, Option.bind_some, hclaims, Option.bind_some, claimsContext, Option.isSome_map]

/-- With an unset secret, the accepted tokens are the forged ones. -/
theorem isSome_authenticate_iff_forged (hjwt : env.jwt.Lawful)
    (hsecret : env.settings.wodJwtSecret = "") (hkey : ¬ HasApiKey env request) :
    (authenticate env request).isSome ↔ Forged env request := by
  rw [isSome_authenticate_iff hkey, hsecret]
  refine exists_congr fun token => exists_congr fun claims => and_congr_right fun _ => ?_
  rw [hjwt token "" env.now claims, Jwt.Forgeable, ← and_assoc]
  refine and_congr_left fun _ => ?_
  constructor
  · rintro ⟨signed, hread, hclaims, hmac, hexp⟩
    exact ⟨⟨signed, hread, hclaims, hmac⟩, hexp⟩
  · rintro ⟨⟨signed, hread, hclaims, hmac⟩, hexp⟩
    exact ⟨signed, hread, hclaims, hmac, hexp⟩

theorem acceptsToken_iff :
    AcceptsToken env request ↔ ¬ HasApiKey env request ∧ (authenticate env request).isSome := by
  by_cases hkey : HasApiKey env request
  · refine iff_of_false ?_ fun h => h.1 hkey
    rintro ⟨authContext, hcontext, hmethod⟩
    rw [authenticate, if_pos hkey] at hcontext
    obtain rfl := Option.some.inj hcontext
    cases hmethod
  · rw [and_iff_right hkey]
    refine ⟨fun ⟨authContext, h, _⟩ => Option.isSome_iff_exists.mpr ⟨authContext, h⟩, fun h => ?_⟩
    obtain ⟨authContext, hcontext⟩ := Option.isSome_iff_exists.mp h
    refine ⟨authContext, hcontext, ?_⟩
    rw [authenticate, if_neg hkey] at hcontext
    obtain ⟨token, -, hdecode⟩ := Option.bind_eq_some_iff.mp hcontext
    obtain ⟨claims, -, huser⟩ := Option.bind_eq_some_iff.mp hdecode
    exact authMethod_of_claimsContext huser

/-- What gets in while `WOD_JWT_SECRET` is unset: a token is accepted iff whoever knows no secret
can sign it, and without an API key either the request is turned away iff it does not carry such a
token. -/
theorem unsetSecrets_closed_iff (hjwt : env.jwt.Lawful)
    (hsecret : env.settings.wodJwtSecret = "") (hpath : isExempt request.path = false) :
    (env.settings.zubotIngestionApiKey = "" →
      (Rejected env request ↔ ¬ Forged env request)) ∧
    (AcceptsToken env request ↔ ¬ HasApiKey env request ∧ Forged env request) := by
  constructor
  · intro hkey
    rw [rejected_iff hpath, ← isSome_authenticate_iff_forged hjwt hsecret (not_hasApiKey hkey),
      Option.not_isSome_iff_eq_none]
  · rw [acceptsToken_iff]
    exact and_congr_right fun hkey => isSome_authenticate_iff_forged hjwt hsecret hkey

end

/-! ### A forged token -/

/-- What is signed of a token with the claim `user_id = "mallory"`. -/
def malloryInput : String :=
  "eyJhbGciOiJIUzI1NiIsInR5cCI6IkpXVCJ9.eyJ1c2VyX2lkIjoibWFsbG9yeSJ9"

/-- Its HMAC-SHA256 under the empty key. -/
def mallorySignature : String := "mHISRNYhJhriL731_NTsP28OgyzxZq9Kv7bf6SDOO7w"

/-- PyJWT on this token. -/
def malloryJwt : Jwt where
  mac key input := if key = "" ∧ input = malloryInput then mallorySignature else "another"
  read token :=
    if token = malloryInput ++ "." ++ mallorySignature then
      some ⟨malloryInput, mallorySignature, [("user_id", .str "mallory")]⟩
    else none
  expiry _ := none
  decode token key _ :=
    if token = malloryInput ++ "." ++ mallorySignature ∧ key = "" then
      some [("user_id", .str "mallory")]
    else none

theorem malloryJwt_lawful : malloryJwt.Lawful := by
  intro token key now claims
  have hexp : malloryJwt.Unexpired [("user_id", .str "mallory")] now := fun value hvalue =>
    nomatch hvalue
  simp only [malloryJwt] at hexp ⊢
  by_cases htoken : token = malloryInput ++ "." ++ mallorySignature
  · by_cases hkey : key = ""
    · rw [if_pos ⟨htoken, hkey⟩, if_pos htoken]
      constructor
      · rintro ⟨⟩
        exact ⟨_, rfl, rfl, (if_pos ⟨hkey, rfl⟩).symm, hexp⟩
      · rintro ⟨signed, hread, rfl, -, -⟩
        rw [← Option.some.inj hread]
    · rw [if_neg fun h => hkey h.2, if_pos htoken]
      refine iff_of_false (Option.some_ne_none claims).symm ?_
      rintro ⟨signed, hread, -, hmac, -⟩
      rw [if_neg fun h => hkey h.1, ← Option.some.inj hread] at hmac
      exact absurd hmac (by decide)
  · rw [if_neg fun h => htoken h.1, if_neg htoken]
    refine iff_of_false (Option.some_ne_none claims).symm ?_
    rintro ⟨signed, hread, -⟩
    cases hread

/-- Default settings. -/
def defaultEnv : AuthEnv where
  settings := {}
  jwt := malloryJwt
  py := ⟨id, id, fun _ => none, fun _ => ""⟩
  int? _ := none
  now := 0

/-- A request of the pending reviews. -/
def reviewRequest (headers : List (String × String)) : HttpRequest where
  method := "GET"
  path := "/review/pending"
  headers := headers
  client := some "10.0.0.7"

/-- A request without credentials is turned away. -/
theorem unsetSecrets_closed_without_credentials : Rejected defaultEnv (reviewRequest []) := by
  refine ((unsetSecrets_closed_iff malloryJwt_lawful rfl (by decide)).1 rfl).mpr ?_
  rintro ⟨token, claims, htoken, -⟩
  cases htoken

/-- A request with the forged token. -/
def malloryRequest : HttpRequest :=
  reviewRequest [("authorization", "Bearer " ++ (malloryInput ++ "." ++ mallorySignature))]

/-- With the default settings the forged token is let in. -/
theorem not_forall_rejected : ¬ ∀ (env : AuthEnv) (request : HttpRequest), env.jwt.Lawful →
    env.settings.zubotIngestionApiKey = "" → env.settings.wodJwtSecret = "" →
      isExempt request.path = false → Rejected env request := by
  intro hclosed
  have hrejected := hclosed defaultEnv malloryRequest malloryJwt_lawful rfl rfl (by decide)
  have htoken : bearerToken? malloryRequest = some (malloryInput ++ "." ++ mallorySignature) :=
    bearerToken?_of_header rfl
  have hdecode : malloryJwt.decode (malloryInput ++ "." ++ mallorySignature) "" 0 =
      some [("user_id", .str "mallory")] := by
    simp only [malloryJwt, and_self, if_true]
  have hin : (authenticate defaultEnv malloryRequest).isSome :=
    (isSome_authenticate_iff (not_hasApiKey rfl)).mpr ⟨_, _, htoken, hdecode, rfl⟩
  rw [hrejected.1] at hin
  cases hin

end ZubotIngestion
