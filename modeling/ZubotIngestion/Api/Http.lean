import ZubotIngestion.Python.Value

/-!
# Requests, replies and middlewares

An HTTP request as the middlewares see it, and the reply to it. A middleware turns a handler into
a handler. Starlette wraps the router in the middlewares in the order in which they were added, so
the one added last is the outermost.

## Main definitions

* `AuthContext`, `HttpRequest`, `HttpReply`.
* `Handler`, `Middleware`, `addMiddlewares`.
-/

namespace ZubotIngestion

/-- How a caller has authenticated. -/
inductive AuthMethod : Type where
  | apiKey
  | wodToken
  deriving DecidableEq

/-- The authenticated caller. -/
structure AuthContext where
  userId : String
  authMethod : AuthMethod
  deploymentId : Option ℤ
  nodeId : Option ℤ
  permissions : List String := []

/-- A request. Header names arrive in lower case; `authContext` is
`request.state.auth_context`. -/
structure HttpRequest where
  method : String
  path : String
  headers : List (String × String)
  client : Option String
  authContext : Option AuthContext := none

namespace HttpRequest

/-- `request.headers.get(name)`. -/
def header? (request : HttpRequest) (name : String) : Option String :=
  (request.headers.find? fun header => decide (header.1 = name)).map Prod.snd

end HttpRequest

/-- The part of the application that answers a request. -/
inductive Component : Type where
  | cors
  | auth
  | rateLimit
  | router
  deriving DecidableEq

/-- An evaluation of the default rate limit: the caller known at that time, and the key. -/
structure LimitCheck where
  authContext : Option AuthContext
  key : String

/-- The reply to a request, with the limit evaluations made on the way to it. -/
structure HttpReply where
  status : ℕ
  answeredBy : Component
  limitChecks : List LimitCheck := []

/-- A part of the application that answers requests. -/
abbrev Handler : Type := HttpRequest → HttpReply

/-- A handler around a handler. -/
abbrev Middleware : Type := Handler → Handler

/-- `app.add_middleware` for each of the middlewares, around the router. -/
def addMiddlewares (middlewares : List Middleware) (router : Handler) : Handler :=
  middlewares.foldl (fun handler middleware => middleware handler) router

/-- The middleware added last is the outermost. -/
theorem addMiddlewares_concat (middlewares : List Middleware) (outermost : Middleware)
    (router : Handler) :
    addMiddlewares (middlewares ++ [outermost]) router =
      outermost (addMiddlewares middlewares router) :=
  List.foldl_append

end ZubotIngestion
