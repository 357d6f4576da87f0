import CampusLedger.Identifier
import CampusLedger.Time.Duration
import CampusLedger.Text.Distinct
import CampusLedger.Json.Value
/-!
# Process settings

The server is configured from environment variables; an unset or empty variable takes its
default. Reading collects every malformed value (a duration that does not read, a count that is
no unsigned 64-bit numeral, a seed asset that is no asset identifier) and refuses with all of
them. Settings that read are then validated, and again every violation is reported.

Counts read as unsigned 64-bit numbers and are stored in the width of their setting: the
connection and pool counts and the rate limit as signed 64-bit words, the partition count as a
signed 32-bit word and the replication factor as a signed 16-bit word, keeping the low bits.
-/

namespace CampusLedger

abbrev Environment := List (String × String)

/-- The value of a variable, empty when unset. -/
def Environment.get (env : Environment) (key : String) : String :=
  ((env.find? (·.1 == key)).map (·.2)).getD ""

/-- The HTTP server's address and timeouts, in nanoseconds. -/
structure ServerSettings where
  addr : String
  readTimeout : Int
  writeTimeout : Int
  shutdownTimeout : Int
  requestTimeout : Int
  deriving Repr, Inhabited

structure LedgerSettings where
  controller : String
  escrow : String
  store : String
  txTimeout : Int
  seedAsset : Nat
  seedHolder : String
  seedSupply : Nat
  deriving Repr, Inhabited

structure DatabaseSettings where
  url : String
  maxOpenConns : Int
  maxIdleConns : Int
  deriving Repr, Inhabited

structure CacheSettings where
  url : String
  poolSize : Int
  minIdleConns : Int
  dialTimeout : Int
  readTimeout : Int
  writeTimeout : Int
  dedupTtl : Int
  deriving Repr, Inhabited

structure StreamSettings where
  brokers : List String
  activityTopic : String
  eventsTopic : String
  group : String
  partitions : Int
  replication : Int
  deriving Repr, Inhabited

structure AuthSettings where
  signingKey : String
  issuer : String
  tokenTtl : Int
  deriving Repr, Inhabited

/-- Mutations allowed per caller within a window; zero allows all. -/
structure RateSettings where
  mutations : Int
  window : Int
  deriving Repr, Inhabited

structure LogSettings where
  level : String
  format : String
  deriving Repr, Inhabited

structure Settings where
  server : ServerSettings
  ledger : LedgerSettings
  database : DatabaseSettings
  cache : CacheSettings
  stream : StreamSettings
  auth : AuthSettings
  rate : RateSettings
  log : LogSettings
  deriving Repr, Inhabited

namespace Settings

/-- The insecure signing key used when none is configured. -/
def devSigningKey : String := "dev-secret-key-change-in-production"

def storeMemory : String := "memory"

def storePostgres : String := "postgres"

/-- The two's-complement value of the low `bits` bits of `n`. -/
def lowBits (bits : Nat) (n : Nat) : Int :=
  let m := n % Nat.pow 2 bits
  if m ≥ Nat.pow 2 (bits - 1) then (m : Int) - Nat.pow 2 bits else m

/-- A reader of settings: collects the messages of malformed values. -/
abbrev Reader := StateM (List String)

/-- A text variable with a default for unset or empty. -/
def text (env : Environment) (key fallback : String) : Reader String :=
  pure (let v := env.get key; if v.isEmpty then fallback else v)

def duration (env : Environment) (key : String) (fallback : Int) : Reader Int := do
  let raw := env.get key
  if raw.isEmpty then return fallback
  match Duration.parse raw with
  | .ok d => return d
  | .error m =>
    modify (· ++ [key ++ ": " ++ m])
    return fallback

/-- An unsigned 64-bit count variable with a default. -/
def count (env : Environment) (key : String) (fallback : Nat) : Reader Nat := do
  let raw := env.get key
  if raw.isEmpty then return fallback
  match Decimal.parseNatural 64 raw with
  | .ok n => return n
  | .error e =>
    modify (· ++ [key ++ ": " ++ e.message])
    return fallback

/-- The seed asset, zero when unset; a value that is no asset identifier adds a message. -/
def readSeedAsset (env : Environment) : Reader Nat := do
  let raw := env.get "CCMS_SEED_ASSET"
  if raw.isEmpty then return 0
  match AssetId.ofText raw with
  | .ok a => return a.id
  | .error e =>
    modify (· ++ ["CCMS_SEED_ASSET: " ++ e.text])
    return 0

def sec : Int := 1000000000

/-- Reads all settings, collecting malformed values. -/
def read (env : Environment) : Reader Settings := do
  let addr ← text env "CCMS_ADDR" ":8080"
  let readTimeout ← duration env "CCMS_READ_TIMEOUT" (10 * sec)
  let writeTimeout ← duration env "CCMS_WRITE_TIMEOUT" (10 * sec)
  let shutdownTimeout ← duration env "CCMS_SHUTDOWN_TIMEOUT" (10 * sec)
  let requestTimeout ← duration env "CCMS_REQUEST_TIMEOUT" (30 * sec)
  let store ← text env "CCMS_STORE" storeMemory
  let txTimeout ← duration env "CCMS_TX_TIMEOUT" (5 * sec)
  let seedSupply ← count env "CCMS_SEED_SUPPLY" 0
  let maxOpen ← count env "DATABASE_MAX_OPEN_CONNS" 10
  let maxIdle ← count env "DATABASE_MAX_IDLE_CONNS" 5
  let poolSize ← count env "REDIS_POOL_SIZE" 10
  let minIdle ← count env "REDIS_MIN_IDLE_CONNS" 2
  let dial ← duration env "REDIS_DIAL_TIMEOUT" (5 * sec)
  let cacheRead ← duration env "REDIS_READ_TIMEOUT" (3 * sec)
  let cacheWrite ← duration env "REDIS_WRITE_TIMEOUT" (3 * sec)
  let dedupTtl ← duration env "ACTIVITY_DEDUP_TTL" (86400 * sec)
  let activityTopic ← text env "KAFKA_ACTIVITY_TOPIC" "ccms.activity"
  let eventsTopic ← text env "KAFKA_EVENTS_TOPIC" "ccms.ledger-events"
  let group ← text env "KAFKA_GROUP" "ccms-reputation"
  let partitions ← count env "KAFKA_PARTITIONS" 3
  let replication ← count env "KAFKA_REPLICATION" 1
  let key ← text env "JWT_SIGNING_KEY" devSigningKey
  let issuer ← text env "JWT_ISSUER" "ccms"
  let ttl ← duration env "JWT_TOKEN_TTL" (3600 * sec)
  let mutations ← count env "RATE_LIMIT_MUTATIONS" 60
  let window ← duration env "RATE_LIMIT_WINDOW" (60 * sec)
  let level ← text env "LOG_LEVEL" "info"
  let format ← text env "LOG_FORMAT" "json"
  let seedAsset ← readSeedAsset env
  return {
    server := { addr, readTimeout, writeTimeout, shutdownTimeout, requestTimeout }
    ledger := { controller := env.get "CCMS_CONTROLLER", escrow := env.get "CCMS_ESCROW", store,
                txTimeout, seedAsset, seedHolder := env.get "CCMS_SEED_HOLDER", seedSupply }
    database := { url := env.get "DATABASE_URL", maxOpenConns := lowBits 64 maxOpen,
                  maxIdleConns := lowBits 64 maxIdle }
    cache := { url := env.get "REDIS_URL", poolSize := lowBits 64 poolSize,
               minIdleConns := lowBits 64 minIdle, dialTimeout := dial, readTimeout := cacheRead,
               writeTimeout := cacheWrite, dedupTtl }
    stream := { brokers := Text.distinctTrimmed ((env.get "KAFKA_BROKERS").splitOn ","),
                activityTopic, eventsTopic, group, partitions := lowBits 32 partitions,
                replication := lowBits 16 replication }
    auth := { signingKey := key, issuer, tokenTtl := ttl }
    rate := { mutations := lowBits 64 mutations, window }
    log := { level, format } }

/-- The violations of settings that read: identities, store, seed, stream, key and the four
durations that must be positive. -/
def violations (c : Settings) : List String :=
  let check (cond : Bool) (msg : String) : List String := if cond then [msg] else []
  let idFault (key v : String) : List String :=
    match AccountId.ofText v with
    | .ok _ => []
    | .error e => [key ++ ": " ++ e.text]
  idFault "CCMS_CONTROLLER" c.ledger.controller ++
  idFault "CCMS_ESCROW" c.ledger.escrow ++
  check (!c.ledger.controller.isEmpty && c.ledger.controller == c.ledger.escrow)
    "CCMS_ESCROW must differ from CCMS_CONTROLLER" ++
  (if c.ledger.store == storeMemory then []
   else if c.ledger.store == storePostgres then
     check c.database.url.isEmpty "DATABASE_URL is required when CCMS_STORE=postgres"
   else ["CCMS_STORE: unsupported store " ++ Text.quote c.ledger.store]) ++
  check (c.ledger.seedAsset != 0 && c.ledger.seedHolder.isEmpty)
    "CCMS_SEED_HOLDER is required with CCMS_SEED_ASSET" ++
  check (!c.stream.brokers.isEmpty && c.stream.partitions ≤ 0) "KAFKA_PARTITIONS must be positive" ++
  check c.auth.signingKey.isEmpty "JWT_SIGNING_KEY is required" ++
  check (c.ledger.txTimeout ≤ 0) "CCMS_TX_TIMEOUT must be positive" ++
  check (c.server.requestTimeout ≤ 0) "CCMS_REQUEST_TIMEOUT must be positive" ++
  check (c.auth.tokenTtl ≤ 0) "JWT_TOKEN_TTL must be positive" ++
  check (c.rate.window ≤ 0) "RATE_LIMIT_WINDOW must be positive"

/-- The settings of an environment, or every message of what is wrong with it: the malformed
values if any, else the violations. -/
def ofEnvironment (env : Environment) : Except (List String) Settings :=
  let (c, faults) := (read env).run []
  if !faults.isEmpty then .error faults
  else
    match violations c with
    | [] => .ok c
    | vs => .error vs

def variableNames : List String :=
  ["CCMS_ADDR", "CCMS_READ_TIMEOUT", "CCMS_WRITE_TIMEOUT", "CCMS_SHUTDOWN_TIMEOUT",
   "CCMS_REQUEST_TIMEOUT", "CCMS_CONTROLLER", "CCMS_ESCROW", "CCMS_STORE", "CCMS_TX_TIMEOUT",
   "CCMS_SEED_ASSET", "CCMS_SEED_HOLDER", "CCMS_SEED_SUPPLY", "DATABASE_URL",
   "DATABASE_MAX_OPEN_CONNS", "DATABASE_MAX_IDLE_CONNS", "REDIS_URL", "REDIS_POOL_SIZE",
   "REDIS_MIN_IDLE_CONNS", "REDIS_DIAL_TIMEOUT", "REDIS_READ_TIMEOUT", "REDIS_WRITE_TIMEOUT",
   "ACTIVITY_DEDUP_TTL", "KAFKA_BROKERS", "KAFKA_ACTIVITY_TOPIC", "KAFKA_EVENTS_TOPIC",
   "KAFKA_GROUP", "KAFKA_PARTITIONS", "KAFKA_REPLICATION", "JWT_SIGNING_KEY", "JWT_ISSUER",
   "JWT_TOKEN_TTL", "RATE_LIMIT_MUTATIONS", "RATE_LIMIT_WINDOW", "LOG_LEVEL", "LOG_FORMAT"]

def usesDevSigningKey (c : Settings) : Bool := c.auth.signingKey == devSigningKey

/-- The settings as a JSON document, durations in nanoseconds. -/
def toJson (c : Settings) : Json :=
  .obj [
    ("server", .obj [("addr", .str c.server.addr), ("read_timeout_ns", .int c.server.readTimeout),
      ("write_timeout_ns", .int c.server.writeTimeout),
      ("shutdown_timeout_ns", .int c.server.shutdownTimeout),
      ("request_timeout_ns", .int c.server.requestTimeout)]),
    ("ledger", .obj [("controller", .str c.ledger.controller), ("escrow", .str c.ledger.escrow),
      ("store", .str c.ledger.store), ("tx_timeout_ns", .int c.ledger.txTimeout),
      ("seed_asset", .nat c.ledger.seedAsset), ("seed_holder", .str c.ledger.seedHolder),
      ("seed_supply", .nat c.ledger.seedSupply)]),
    ("database", .obj [("url", .str c.database.url), ("max_open_conns", .int c.database.maxOpenConns),
      ("max_idle_conns", .int c.database.maxIdleConns)]),
    ("redis", .obj [("url", .str c.cache.url), ("pool_size", .int c.cache.poolSize),
      ("min_idle_conns", .int c.cache.minIdleConns), ("dial_timeout_ns", .int c.cache.dialTimeout),
      ("read_timeout_ns", .int c.cache.readTimeout), ("write_timeout_ns", .int c.cache.writeTimeout),
      ("dedup_ttl_ns", .int c.cache.dedupTtl)]),
    ("kafka", .obj [("brokers", .arr (c.stream.brokers.map Json.str)),
      ("activity_topic", .str c.stream.activityTopic), ("events_topic", .str c.stream.eventsTopic),
      ("group", .str c.stream.group), ("partitions", .int c.stream.partitions),
      ("replication", .int c.stream.replication)]),
    ("auth", .obj [("jwt_signing_key", .str c.auth.signingKey), ("jwt_issuer", .str c.auth.issuer),
      ("token_ttl_ns", .int c.auth.tokenTtl)]),
    ("rate_limit", .obj [("mutations", .int c.rate.mutations), ("window_ns", .int c.rate.window)]),
    ("logging", .obj [("level", .str c.log.level), ("format", .str c.log.format)]),
    ("uses_dev_signing_key", .bool c.usesDevSigningKey)]

end Settings

end CampusLedger
