import ZubotIngestion.Api.Auth

/-!
# The middlewares of the application

`create_app` of `api/app.py` adds `CORSMiddleware`, `AuthMiddleware`, the request logging and
`SlowAPIMiddleware`, in this order. Its comments want the CORS middleware to answer preflights
before the authentication sees them, and the rate limit to see the caller the authentication has
found. Both would need the opposite order, since the middleware added last is the outermost: the
rate limit is evaluated first, then the request is authenticated, and the CORS middleware comes
last.

`CORSMiddleware` and `SlowAPIMiddleware` are parameters with their documented behaviour.

## Main definitions

* `getRateLimitKey`, `SlowApi`, `LawfulCors`, `createApp`.
* `OrderGuarantee`: what the comments promise of a request.

## Main results

* `orderGuarantee_iff`: the requests of which it holds.
-/

namespace ZubotIngestion

/-! ### The other middlewares -/

/-- `get_rate_limit_key`. -/
def getRateLimitKey (remoteAddress : HttpRequest → String) (request : HttpRequest) : String :=
  match request.authContext with
  | some authContext =>
    if authContext.userId ≠ "" then s!"user:{authContext.userId}"
    else s!"ip:{remoteAddress request}"
  | none => s!"ip:{remoteAddress request}"

/-- `SlowAPIMiddleware` with the limiter of the application. -/
structure SlowApi where
  middleware : Middleware
  /-- The middleware evaluates the default limit for this request. -/
  evaluates : HttpRequest → Bool
  /-- The limit of this key is used up. -/
  exceeded : HttpRequest → String → Bool
  /-- `get_remote_address`. -/
  remoteAddress : HttpRequest → String

namespace SlowApi

/-- An evaluation of the default limit. -/
def check (slowApi : SlowApi) (request : HttpRequest) : LimitCheck where
  authContext := request.authContext
  key := getRateLimitKey slowApi.remoteAddress request

/-- The default limit is evaluated, with the key function, before the rest of the application is
called; a request beyond the limit is answered with 429. -/
structure Lawful (slowApi : SlowApi) : Prop where
  skipped : ∀ next request, slowApi.evaluates request = false →
    slowApi.middleware next request = next request
  evaluated : ∀ next request, slowApi.evaluates request = true →
    slowApi.middleware next request =
      if slowApi.exceeded request (slowApi.check request).key then
        { status := 429, answeredBy := .rateLimit, limitChecks := [slowApi.check request] }
      else
        { next request with
          limitChecks := slowApi.check request :: (next request).limitChecks }

end SlowApi

/-- A CORS preflight. -/
def IsPreflight (request : HttpRequest) : Prop :=
  request.method = "OPTIONS" ∧ (request.header? "origin").isSome ∧
    (request.header? "access-control-request-method").isSome

instance (request : HttpRequest) : Decidable (IsPreflight request) :=
  inferInstanceAs (Decidable (_ ∧ _ ∧ _))

/-- `CORSMiddleware` answers preflights itself and passes other requests on; what it adds to the
headers of their replies is left out. -/
structure LawfulCors (cors : Middleware) : Prop where
  preflight : ∀ next request, IsPreflight request →
    (cors next request).answeredBy = .cors ∧ (cors next request).limitChecks = []
  other : ∀ next request, ¬ IsPreflight request → cors next request = next request

/-- `RequestLoggingMiddleware`: the reply is that of the rest of the application. -/
def requestLogging : Middleware := fun next request => next request

/-- The routes, seen through the status of their replies. They evaluate their own limits only. -/
def routerHandler (router : HttpRequest → ℕ) : Handler := fun request =>
  { status := router request, answeredBy := .router }

/-- `create_app`. -/
def createApp (env : AuthEnv) (cors : Middleware) (slowApi : SlowApi)
    (router : HttpRequest → ℕ) : Handler :=
  addMiddlewares [cors, authDispatch env, requestLogging, slowApi.middleware]
    (routerHandler router)

/-! ### What the order promises -/

/-- A request as it arrives, without state. -/
def HttpRequest.arrived (request : HttpRequest) : HttpRequest :=
  { request with authContext := none }

/-- The request has neither an API key nor an `Authorization` header. -/
def WithoutCredentials (request : HttpRequest) : Prop :=
  request.header? "x-api-key" = none ∧ request.header? "authorization" = none

instance (request : HttpRequest) : Decidable (WithoutCredentials request) :=
  inferInstanceAs (Decidable (_ ∧ _))

/-- A preflight without credentials is answered by the CORS middleware, and the default limit is
evaluated for the caller of a request that authenticates. -/
structure OrderGuarantee (app : Handler) (env : AuthEnv) (request : HttpRequest) : Prop where
  preflight : IsPreflight request → WithoutCredentials request →
    (app request.arrived).answeredBy = .cors
  limits : (authenticate env request).isSome → ∀ check ∈ (app request.arrived).limitChecks,
    ∃ authContext, check.authContext = some authContext ∧
      check.key = s!"user:{authContext.userId}"

theorem authenticate_eq_none {env : AuthEnv} {request : HttpRequest}
    (h : WithoutCredentials request) : authenticate env request = none := by
  have hkey : ¬ HasApiKey env request := by
    rintro ⟨apiKey, hheader, -⟩
    rw [h.1] at hheader
    cases hheader
  rw [authenticate, if_neg hkey, bearerToken?, h.2]
  rfl

section

variable {env : AuthEnv} {cors : Middleware} {slowApi : SlowApi} {request : HttpRequest}

/-- The application from the outermost middleware on. -/
theorem createApp_apply (router : HttpRequest → ℕ) (request : HttpRequest) :
    createApp env cors slowApi router request =
      slowApi.middleware (authDispatch env (cors (routerHandler router))) request :=
  congrFun (addMiddlewares_concat [cors, authDispatch env, requestLogging] slowApi.middleware
    (routerHandler router)) request

/-- Behind the rate limit no other limit evaluation is made. -/
theorem limitChecks_authDispatch (hcors : LawfulCors cors) (router : HttpRequest → ℕ)
    (request : HttpRequest) :
    (authDispatch env (cors (routerHandler router)) request).limitChecks = [] := by
  have hinner : ∀ request, (cors (routerHandler router) request).limitChecks = [] := by
    intro request
    by_cases hpreflight : IsPreflight request
    · exact (hcors.preflight _ request hpreflight).2
    · rw [hcors.other _ request hpreflight]
      rfl
  rw [authDispatch]
  split_ifs
  · exact hinner request
  · split
    · rfl
    · exact hinner _

/-- Without credentials the CORS middleware is never reached: the rate limit or the authentication
answers. -/
theorem answeredBy_ne_cors (hslowApi : slowApi.Lawful) (router : HttpRequest → ℕ)
    (hpath : isExempt request.path = false) (hcredentials : WithoutCredentials request) :
    (createApp env cors slowApi router request.arrived).answeredBy ≠ .cors := by
  have harrived : isExempt request.arrived.path = false := hpath
  have hrejected : Rejected env request.arrived :=
    (rejected_iff harrived).mpr (authenticate_eq_none hcredentials)
  have hauth : authDispatch env (cors (routerHandler router)) request.arrived = unauthorized :=
    hrejected.2 _
  rw [createApp_apply]
  cases hevaluates : slowApi.evaluates request.arrived with
  | false =>
    rw [hslowApi.skipped _ _ hevaluates, hauth]
    exact Component.noConfusion
  | true =>
    rw [hslowApi.evaluated _ _ hevaluates, hauth]
    split_ifs <;> exact Component.noConfusion

/-- The rate limit sees a request before it is authenticated. -/
theorem mem_limitChecks_iff (hcors : LawfulCors cors) (hslowApi : slowApi.Lawful)
    (router : HttpRequest → ℕ) (check : LimitCheck) :
    check ∈ (createApp env cors slowApi router request.arrived).limitChecks ↔
      slowApi.evaluates request.arrived = true ∧ check = slowApi.check request.arrived := by
  rw [createApp_apply]
  cases hevaluates : slowApi.evaluates request.arrived with
  | false =>
    rw [hslowApi.skipped _ _ hevaluates, limitChecks_authDispatch hcors]
    exact iff_of_false List.not_mem_nil fun h => Bool.false_ne_true h.1
  | true =>
    rw [hslowApi.evaluated _ _ hevaluates, and_iff_right rfl]
    split_ifs
    · exact List.mem_singleton
    · rw [limitChecks_authDispatch hcors]
      exact List.mem_singleton

/-- The promise holds of the requests that are no preflights without credentials, and for which
the default limit is not evaluated if they authenticate. -/
theorem orderGuarantee_iff (hcors : LawfulCors cors) (hslowApi : slowApi.Lawful)
    (router : HttpRequest → ℕ) (hpath : isExempt request.path = false) :
    OrderGuarantee (createApp env cors slowApi router) env request ↔
      ¬ (IsPreflight request ∧ WithoutCredentials request) ∧
        ¬ ((authenticate env request).isSome ∧ slowApi.evaluates request.arrived = true) := by
  have hchecks (check : LimitCheck) :
      check ∈ (createApp env cors slowApi router request.arrived).limitChecks ↔
        slowApi.evaluates request.arrived = true ∧ check = slowApi.check request.arrived :=
    mem_limitChecks_iff hcors hslowApi router check
  constructor
  · intro h
    constructor
    · rintro ⟨hpreflight, hcredentials⟩
      exact answeredBy_ne_cors hslowApi router hpath hcredentials
        (h.preflight hpreflight hcredentials)
    · rintro ⟨hauthenticates, hevaluates⟩
      obtain ⟨authContext, hcontext, -⟩ :=
        h.limits hauthenticates _ ((hchecks _).mpr ⟨hevaluates, rfl⟩)
      cases hcontext
  · rintro ⟨hpreflight, hlimits⟩
    refine ⟨fun h h' => absurd ⟨h, h'⟩ hpreflight, fun hauthenticates check hcheck => ?_⟩
    exact absurd ⟨hauthenticates, ((hchecks check).mp hcheck).1⟩ hlimits

end

/-! ### A preflight -/

/-- A CORS middleware that allows everything. -/
def openCors : Middleware := fun next request =>
  if IsPreflight request then { status := 200, answeredBy := .cors } else next request

theorem openCors_lawful : LawfulCors openCors where
  preflight next request h := by
    rw [openCors, if_pos h]
    exact ⟨rfl, rfl⟩
  other next request h := if_neg h

/-- A rate limit that evaluates its default for the paths in `limited`, and is never used up. -/
def idleSlowApi (limited : List String) : SlowApi where
  middleware next request :=
    if limited.contains request.path then
      { next request with
        limitChecks := ⟨request.authContext, getRateLimitKey (fun _ => "10.0.0.7") request⟩ ::
          (next request).limitChecks }
    else next request
  evaluates request := limited.contains request.path
  exceeded _ _ := false
  remoteAddress _ := "10.0.0.7"

theorem idleSlowApi_lawful (limited : List String) : (idleSlowApi limited).Lawful where
  skipped next request h := by
    simp only [idleSlowApi] at h ⊢
    rw [h]
    rfl
  evaluated next request h := by
    simp only [idleSlowApi] at h ⊢
    rw [h]
    rfl

/-- A request without credentials that is no preflight. -/
theorem orderGuarantee_plain_request :
    OrderGuarantee (createApp defaultEnv openCors (idleSlowApi ["/batches"]) fun _ => 200)
      defaultEnv (reviewRequest []) := by
  refine (orderGuarantee_iff openCors_lawful (idleSlowApi_lawful _) _ (by decide)).mpr ?_
  exact ⟨fun h => absurd h.1 (by decide), fun h => absurd h.2 (by decide)⟩

/-- A browser's preflight for a submission. -/
def preflightRequest : HttpRequest where
  method := "OPTIONS"
  path := "/extract"
  headers := [("origin", "https://app.example"), ("access-control-request-method", "POST")]
  client := some "10.0.0.7"

/-- The preflight is answered by the authentication. -/
theorem not_orderGuarantee_preflight :
    ¬ ∀ (env : AuthEnv) (cors : Middleware) (slowApi : SlowApi) (router : HttpRequest → ℕ),
      LawfulCors cors → slowApi.Lawful → ∀ request, isExempt request.path = false →
        OrderGuarantee (createApp env cors slowApi router) env request := by
  intro h
  have hpreflight := (h defaultEnv openCors (idleSlowApi []) (fun _ => 200) openCors_lawful
    (idleSlowApi_lawful []) preflightRequest (by decide)).preflight (by decide) (by decide)
  exact absurd hpreflight (by decide)

end ZubotIngestion
