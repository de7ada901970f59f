import RoleGrants.Document.Json
import RoleGrants.Http.ContentType
import RoleGrants.Http.Exchange
import RoleGrants.Sync.Pass

/-! # The routes of the service

Five paths, each under one method; a path that answers GET answers HEAD too,
without a body.  Any other method on them is refused with the methods allowed,
and any other path is not found.

The body of an authorization request is read as it is written: where it stops
being JSON the answer is 400, and where it is JSON of another shape 422. -/

set_option autoImplicit false

namespace RoleGrants

inductive Route where
  | health
  | status
  | reload
  | bump
  | authorize
  deriving DecidableEq, Repr

namespace Route

def ofPath? : String → Option Route
  | "/healthz" => some .health
  | "/v1/policy" => some .status
  | "/v1/policy/reload" => some .reload
  | "/v1/signal/bump" => some .bump
  | "/v1/authorize" => some .authorize
  | _ => none

def isReading : Route → Bool
  | .health => true
  | .status => true
  | _ => false

def admits (route : Route) (method : String) : Bool :=
  if route.isReading then method == "GET" || method == "HEAD" else method == "POST"

def allowed (route : Route) : String :=
  if route.isReading then "GET,HEAD" else "POST"

end Route

/-- What a request comes to; an authorization or a reload may abort without a response. -/
inductive Reply where
  | response (response : HttpResponse)
  | aborted

namespace Service

def refusal (status : Nat) (code message : String) : HttpResponse :=
  .ofJson status (.ofFields [("code", .text code), ("message", .text message)])

def internalError : HttpResponse :=
  refusal 500 "internal" "internal error"

/-- Ok only when both the store and the cache are well. -/
def health (service : Service) : HttpResponse :=
  let well := service.store.queries.health.isOk && service.cache.health.isOk
  .ofJson (if well then 200 else 503)
    (.ofFields
      [("status", .text (if well then "ok" else "degraded")),
       ("store", .text service.store.backend.name),
       ("cache", .text service.cache.backend.name),
       ("policy_loaded", .bool service.handle.isLoaded)])

def policyStatus (service : Service) : HttpResponse :=
  let generation := service.handle.current
  .ofJson 200
    (.ofFields
      [("enforcement_enabled", .bool service.authorizer.enabled),
       ("loaded", .bool generation.isSome),
       ("generation", .ofOption generation fun current => .ofNat current.id),
       ("signal", .ofOption (generation.bind Generation.signal) .integer),
       ("last_applied", .ofOption service.sync.applied .integer),
       ("lines", .ofOption generation fun current => .ofNat current.lines),
       ("built_at_unix_ms", .ofOption generation fun current =>
          .integer (current.builtAt / 1000))])

def reloadResponse (service : Service) : CallAnswer → HttpResponse
  | .outcome (.ok (.swapped generation)) =>
      .ofJson 200
        (.ofFields
          [("swapped", .bool true), ("generation", .ofNat generation.id),
           ("lines", .ofNat generation.lines)])
  | .outcome (.ok .empty) =>
      .ofJson 200
        (.ofFields
          [("swapped", .bool false),
           ("generation", .ofOption service.handle.current fun current => .ofNat current.id),
           ("lines", .null)])
  | .outcome (.error .inProgress) =>
      refusal 409 "reload_in_progress" PolicyError.inProgress.message
  | _ => internalError

def reloadByRequest (service : Service) : Service × Reply :=
  match service.reload with
  | (after, some .aborted) => (after, .aborted)
  | (after, some answer) => (after, .response (after.reloadResponse answer))
  | (after, none) => (after, .response internalError)

def bumpByRequest (service : Service) : Service × HttpResponse :=
  match service.bumpSignal with
  | (after, .ok marker) => (after, .ofJson 200 (.ofFields [("signal", .integer marker)]))
  | (after, .error _) =>
      (after, refusal 503 "signal_unavailable" "change signal unavailable")

def unreadable : HttpResponse :=
  .ofText 400 "Failed to parse the request body as JSON"

def misshapen (place : List Step) (fault : Fault) : HttpResponse :=
  let location := pathText place
  .ofText 422 ("Failed to deserialize the JSON body into the target type: " ++
    (if location = "" then "" else location ++ ": ") ++ fault.message)

def notJson : HttpResponse :=
  .ofText 415 "Expected request with `Content-Type: application/json`"

def requestOf (request : HttpRequest) : Except HttpResponse Request :=
  if (request.contentType.map ContentType.isJson).getD false then
    match Json.read request.body with
    | (document, ended) =>
        match Request.layout.read .written document with
        | .ok content => if ended then .ok content else .error unreadable
        | .error .broken => .error unreadable
        | .error (.fault place fault) => .error (misshapen place fault)
  else .error notJson

def authorizeByRequest (service : Service) (request : HttpRequest) : Service × Reply :=
  match requestOf request with
  | .error response => (service, .response response)
  | .ok content =>
      match service.authorize content with
      | (after, .decided decision) =>
          (after, .response (.ofJson (if decision.isAllowed then 200 else 403) decision.document))
      | (after, .failed _) => (after, .response internalError)
      | (after, .aborted) => (after, .aborted)

def respondOn (service : Service) (request : HttpRequest) : Route → Service × Reply
  | .health => (service, .response service.health)
  | .status => (service, .response service.policyStatus)
  | .reload => service.reloadByRequest
  | .bump =>
      let (after, response) := service.bumpByRequest
      (after, .response response)
  | .authorize => service.authorizeByRequest request

def respond (service : Service) (request : HttpRequest) : Service × Reply :=
  match Route.ofPath? request.path with
  | none => (service, .response (.ofText 404 ""))
  | some route =>
      if route.admits request.method then
        match service.respondOn request route with
        | (after, .response response) =>
            (after, .response (if request.method = "HEAD" then response.bodiless else response))
        | other => other
      else (service, .response { status := 405, body := .text "", allow := some route.allowed })

def showMetrics (service : Service) (request : HttpRequest) : HttpResponse :=
  if request.path = "/metrics" then
    if request.method = "GET" then .ofText 200 service.metrics.page
    else if request.method = "HEAD" then .ofText 200 ""
    else { status := 405, body := .text "", allow := some "GET,HEAD" }
  else .ofText 404 ""

end Service

end RoleGrants
