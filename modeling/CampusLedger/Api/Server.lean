import CampusLedger.Api.ReputationRoutes
import CampusLedger.Api.StakingRoutes
import CampusLedger.Api.AssetRoutes
import CampusLedger.Api.ReadRoutes
import CampusLedger.Token
import CampusLedger.Campus.Feed
/-!
# The HTTP server

Every request passes the same layers, outermost first:

* the request identifier: the `X-Request-ID` header as sent, or a fresh UUID when it is absent,
  empty or longer than 128 octets; it is written back as a response header;
* recovery: a fault of the program is answered with 500 and the `internal_error` body, keeping
  the headers already written;
* latency: every answered request is counted under its method, status and route pattern, or
  `unmatched` when no route was found;
* routing, and on guarded routes authentication then the per-caller rate limit.

Authentication takes a bearer token from the `Authorization` header and checks it against the
wall clock, which need not be the time the request is served at; a missing token and an invalid
one are answered with 401. The rate limit keys an authenticated caller by name and an
anonymous one by the host of its address; an allowed or refused request carries the limit, the
remaining count and the reset time, and a refused one is answered with 429. When the limit's
store fails, the request passes without headers.

Headers written by the layers live in the exchange, beside the campus, and survive a fault.
-/

namespace CampusLedger.Api

open Http

inductive Endpoint where
  | health
  | metrics
  | feed
  | reputationConfig
  | reputationComposites
  | reputationComposite
  | reputationScores
  | reputationRegister
  | reputationLaunch
  | reputationUpdate
  | stakingConfig
  | stakingReconcile
  | stakingStake
  | stakingVoteWeight
  | stakingRegister
  | stakingLaunch
  | stakingDeposit
  | stakingWithdraw
  | assetBalance
  | assetOptIn
  | assetTransfer
  | dashboard
  | history
  deriving DecidableEq, Repr

/-- Whether an endpoint sits behind authentication and the rate limit. -/
def Endpoint.guarded : Endpoint → Bool
  | .reputationRegister | .reputationLaunch | .reputationUpdate
  | .stakingRegister | .stakingLaunch | .stakingDeposit | .stakingWithdraw
  | .assetOptIn | .assetTransfer => true
  | _ => false

def moduleRoutes : List (Route Endpoint) :=
  [⟨"GET", "/reputation/config", .reputationConfig⟩,
   ⟨"GET", "/reputation/composites", .reputationComposites⟩,
   ⟨"GET", "/reputation/accounts/{account}/composite", .reputationComposite⟩,
   ⟨"GET", "/reputation/accounts/{account}/scores", .reputationScores⟩,
   ⟨"POST", "/reputation/accounts", .reputationRegister⟩,
   ⟨"POST", "/reputation/initialize", .reputationLaunch⟩,
   ⟨"POST", "/reputation/accounts/{account}/scores", .reputationUpdate⟩,
   ⟨"GET", "/staking/config", .stakingConfig⟩,
   ⟨"GET", "/staking/reconcile", .stakingReconcile⟩,
   ⟨"GET", "/staking/accounts/{account}/stake", .stakingStake⟩,
   ⟨"GET", "/staking/accounts/{account}/vote-weight", .stakingVoteWeight⟩,
   ⟨"POST", "/staking/accounts", .stakingRegister⟩,
   ⟨"POST", "/staking/initialize", .stakingLaunch⟩,
   ⟨"POST", "/staking/stake", .stakingDeposit⟩,
   ⟨"POST", "/staking/withdraw", .stakingWithdraw⟩,
   ⟨"GET", "/assets/{asset}/holders/{account}", .assetBalance⟩,
   ⟨"POST", "/assets/{asset}/opt-in", .assetOptIn⟩,
   ⟨"POST", "/assets/{asset}/transfers", .assetTransfer⟩,
   ⟨"GET", "/dashboard/{account}", .dashboard⟩,
   ⟨"GET", "/events/history", .history⟩]

/-- The routes of a campus: health, metrics and the feed when wired, then the modules. -/
def routesOf (w : Wiring) : List (Route Endpoint) :=
  [⟨"GET", "/healthz", .health⟩] ++
    (if w.metered then [⟨"GET", "/metrics", .metrics⟩] else []) ++
    (if w.feed.isSome then [⟨"GET", "/events", .feed⟩] else []) ++
    moduleRoutes

/-- `GET /events`: subscribes to the events of the `ledger` and `account` the query names, when
the request's handshake switches to the feed's protocol. A bad account is refused first, then a
refused handshake, which leaves no subscription behind. -/
def feedRoute : Handler := fun c =>
  let raw := c.queryValue "account"
  match (if raw.isEmpty then .ok ⟨""⟩ else AccountId.parse raw) with
  | .error _ => pure (Response.plainError 400 "invalid account")
  | .ok account =>
    match c.handshake with
    | .refused status => pure (Response.plainError status (statusText status))
    | .accepted => do
      let conn ← Act.subscribeFeed (Text.Utf8.toText (c.queryValue "ledger")) account
      pure ⟨101, .switched conn⟩

def Endpoint.handler (w : Wiring) : Endpoint → Handler
  | .health => ReadRoutes.health w.health
  | .metrics => ReadRoutes.metrics
  | .feed => feedRoute
  | .reputationConfig => ReputationRoutes.config
  | .reputationComposites => ReputationRoutes.composites
  | .reputationComposite => ReputationRoutes.composite
  | .reputationScores => ReputationRoutes.scores
  | .reputationRegister => ReputationRoutes.register
  | .reputationLaunch => ReputationRoutes.launch
  | .reputationUpdate => ReputationRoutes.update
  | .stakingConfig => StakingRoutes.config
  | .stakingReconcile => StakingRoutes.reconcile
  | .stakingStake => StakingRoutes.stakeOf
  | .stakingVoteWeight => StakingRoutes.voteWeight
  | .stakingRegister => StakingRoutes.register
  | .stakingLaunch => StakingRoutes.launch
  | .stakingDeposit => StakingRoutes.deposit
  | .stakingWithdraw => StakingRoutes.withdraw
  | .assetBalance => AssetRoutes.balance
  | .assetOptIn => AssetRoutes.optIn
  | .assetTransfer => AssetRoutes.transfer
  | .dashboard => ReadRoutes.dashboard
  | .history => ReadRoutes.history

/-- Serving one request: acts on the campus and writes response headers, which stay written
when the act fails. -/
abbrev Exchange := ExceptT Failure (StateT Headers (StateM Campus))

namespace Exchange

def act {α : Type} (x : Act α) : Exchange α := ExceptT.mk (StateT.lift x.run)

def setHeader (name value : String) : Exchange Unit := modifyThe Headers (·.set name value)

end Exchange

open Exchange

/-- The 401 answer of a request without a usable bearer token. -/
def unauthenticated (description : String) : Response :=
  .ofJson 401 (.obj [("error", .str "unauthorized"), ("error_description", .str description)])

/-- The caller a request's bearer token names, or the answer that refuses it. -/
def authenticate (w : Wiring) (now : Instant) (req : Request) : Except Response AccountId :=
  let header := (req.header? "Authorization").getD ""
  if !header.startsWith "Bearer " || header.length == 7 then
    .error (unauthenticated "Missing or invalid Authorization header")
  else
    match Token.validate w.signingKey w.issuer now (header.drop 7).toString with
    | .ok claims => .ok ⟨claims.subject⟩
    | .error _ => .error (unauthenticated "Invalid or expired token")

def throttleKey (caller : AccountId) (remoteAddr : String) : String :=
  if caller.isZero then "addr:" ++ (hostOf? remoteAddr).getD remoteAddr
  else "caller:" ++ caller.name

/-- Applies the per-caller rate limit before `next`. -/
def throttle (w : Wiring) (ctx : Context) (req : Request) (caller : AccountId)
    (next : Exchange Response) : Exchange Response := do
  match w.rateLimit with
  | none => next
  | some (limit, span) =>
    if ← act (Act.tripped "ratelimit.Allow") then next
    else
      let c ← getThe Campus
      let (decision, window) := c.window.allow (throttleKey caller req.remoteAddr) limit span ctx.now
      set { c with window }
      match decision with
      | .error e => throw e
      | .ok d =>
        setHeader "X-RateLimit-Limit" (toString d.limit)
        setHeader "X-RateLimit-Remaining" (toString d.remaining)
        setHeader "X-RateLimit-Reset" (toString d.resetAt.unixSeconds)
        if d.allowed then next
        else
          act (Act.meter (·.inc "ccms_rate_limited_requests_total"))
          setHeader "Retry-After" (toString (d.retryAfter ctx.now))
          pure (.ofFailure (.make .rateLimited "too many requests, try again later"))

/-- Runs a guarded endpoint: authentication at the wall clock `wall`, then the rate limit,
then the handler. -/
def guarded (w : Wiring) (wall : Instant) (ctx : Context) (req : Request)
    (run : AccountId → Exchange Response) : Exchange Response :=
  if w.authenticated then
    match authenticate w wall req with
    | .error r => pure r
    | .ok caller => throttle w ctx req caller (run caller)
  else throttle w ctx req ⟨""⟩ (run ⟨""⟩)

def dispatch (w : Wiring) (wall : Instant) (ctx : Context) (req : Request) (target : Target)
    (resolution : Resolution Endpoint) : Exchange Response :=
  match resolution with
  | .notFound => pure (Response.plainError 404 "404 page not found")
  | .methodNotAllowed => pure ⟨405, .text ""⟩
  | .found r params =>
    let call : Call :=
      { ctx, params, query := queryPairs target.query, body := req.body
        handshake := req.handshake }
    if r.target.guarded then
      guarded w wall ctx req fun caller => act (r.target.handler w { call with caller })
    else act (r.target.handler w call)

def routeLabel : Resolution Endpoint → String
  | .found r _ => r.pattern
  | _ => "unmatched"

/-- Routes and runs a request, counting it once answered; a request that switched to the feed
is counted when the feed ends. -/
def measured (w : Wiring) (wall : Instant) (ctx : Context) (req : Request) :
    Exchange Response := do
  let target := Target.ofText req.target
  let resolution := resolve (routesOf w) req.method (routingPath target.path)
  let resp ← dispatch w wall ctx req target resolution
  let route := routeLabel resolution
  match resp.body with
  | .switched _ => pure ()
  | _ =>
    act (Act.meter fun m =>
      (m.inc "ccms_http_requests_total" [route, req.method, toString resp.status]).observe
        "ccms_http_request_duration_seconds" [route, req.method])
  pure resp

def internalFault : Response := .ofFailure (.make .internal "internal error")

/-- Serves a request at `now`, checking bearer tokens at the wall clock `wall`. -/
def serve (w : Wiring) (wall now : Instant) (req : Request) : Exchange Response := do
  let sent := (req.header? "X-Request-ID").getD ""
  let requestId ← if sent.isEmpty || sent.utf8ByteSize > 128 then
      (·.toText) <$> act Act.nextUuid
    else pure sent
  setHeader "X-Request-ID" requestId
  let ctx : Context := { now, requestId, cancelled := req.cancelled }
  tryCatch (measured w wall ctx req) fun _ => pure internalFault

end CampusLedger.Api
