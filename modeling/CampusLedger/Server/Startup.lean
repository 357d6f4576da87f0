import CampusLedger.Settings
import CampusLedger.Log
import CampusLedger.Database.Connection
import CampusLedger.Cache.Endpoint
import CampusLedger.Stream.Brokers
import CampusLedger.Net.Dial
/-!
# Starting the server

The server starts in steps, each of which may end the start with an error:

1. read the settings from the environment; bad settings end the start before anything is
   logged;
2. warn when tokens are signed with the development key;
3. open the stores: in memory, or in the database, which must answer;
4. mint the seed asset to its holder, when one is set;
5. connect to the claim cache, when its URL is set, and to the event stream's brokers, when
   any are set;
6. announce the start and listen on the server's address.

In this network neither the database, the cache nor a broker answers, so a start that needs
one ends with its error. A start that listens keeps serving until it is stopped. A listener
that cannot bind stops the server: the failure is logged, the shutdown announced, and the
start ends with the error.
-/

namespace CampusLedger.Server

inductive Ending where
  /-- The start ended with an error. -/
  | failed (error : String)
  | serving
  deriving DecidableEq, Repr

/-- A start: the records logged, in order, and how it ended. -/
structure Start where
  records : List Log.Record
  ending : Ending
  deriving Repr

/-- The settings of a start that gets past reading them: the logger they ask for. -/
def loggerOf (cfg : Settings) : Log.Logger := Log.Logger.ofSettings cfg.log.level cfg.log.format

def info (msg : String) (attrs : List (String × Log.Value) := []) : Log.Record :=
  { level := .info, message := msg, attrs }

/-- The steps of a start after the settings are read, on a host with the files `files`. -/
def startWith (files : Host.Tree) (env : Environment) (cfg : Settings) : Start :=
  let warned := if cfg.usesDevSigningKey then
      [{ level := .warn, message := "using the development JWT signing key; set JWT_SIGNING_KEY in production" }]
    else []
  if cfg.ledger.store != Settings.storeMemory then
    ⟨warned, .failed ("ping postgres: " ++ Database.connectError files env cfg.database.url)⟩
  else
    let opened := warned ++ [info "using in-memory stores; state is lost on restart"]
    let seeded := opened ++
      (if cfg.ledger.seedAsset != 0 then
        [info "seeded asset" [("asset_id", .int cfg.ledger.seedAsset), ("holder", .text cfg.ledger.seedHolder),
          ("supply", .int cfg.ledger.seedSupply)]]
      else [])
    if !cfg.cache.url.isEmpty then ⟨seeded, .failed (Cache.connectError files cfg.cache.url)⟩
    else if !cfg.stream.brokers.isEmpty then ⟨seeded, .failed (Stream.connectError cfg.stream.brokers)⟩
    else
      let started := seeded ++ [info "starting ccms" [("addr", .text cfg.server.addr),
        ("store", .text cfg.ledger.store), ("controller", .text cfg.ledger.controller),
        ("escrow", .text cfg.ledger.escrow)]]
      match Net.listenError cfg.server.addr with
      | none => ⟨started, .serving⟩
      | some e =>
        let error := "http server: " ++ e
        ⟨started ++ [info "shutting down",
          { level := .error, message := "server stopped", attrs := [("error", .text error)] }],
         .failed error⟩

/-- Starts the server in an environment on a host with the files `files`: the records and lines
it logs, and how it ends. -/
def start (files : Host.Tree) (env : Environment) : List String × Ending :=
  match Settings.ofEnvironment env with
  | .error ms => ([], .failed ("load config: " ++ "\n".intercalate ms))
  | .ok cfg =>
    let s := startWith files env cfg
    (s.records.filterMap (loggerOf cfg).line, s.ending)

end CampusLedger.Server
