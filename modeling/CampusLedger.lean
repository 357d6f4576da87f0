import CampusLedger.Text.Utf8
import CampusLedger.Text.Printable
import CampusLedger.Text.Quoted
import CampusLedger.Decimal.Natural
import CampusLedger.Failure
import CampusLedger.Uuid
import CampusLedger.Identifier
import CampusLedger.Word
import CampusLedger.Pillar
import CampusLedger.Time.Instant
import CampusLedger.Json.Value
import CampusLedger.Json.Parse
import CampusLedger.Json.Syntax
import CampusLedger.Text.Distinct
import CampusLedger.Ledger.Guard
import CampusLedger.Ledger.Registry
import CampusLedger.Time.Layout
import CampusLedger.Throttle.Window
import CampusLedger.Activity.Claims
import CampusLedger.Staking.Model
import CampusLedger.Reputation.Model
import CampusLedger.Audit.Event
import CampusLedger.Time.Duration
import CampusLedger.Settings
import CampusLedger.Http.Message
import CampusLedger.Log
import CampusLedger.Crypto.Sha256
import CampusLedger.Text.Base64
import CampusLedger.Json.Fields
import CampusLedger.Decimal.Shortest
import CampusLedger.Json.Generic
import CampusLedger.Token
import CampusLedger.Asset.Bank
import CampusLedger.Reputation.Book
import CampusLedger.Staking.Book
import CampusLedger.Audit.Outbox
import CampusLedger.Metrics.Registry
import CampusLedger.Feed.Hub
import CampusLedger.Campus.Basic
import CampusLedger.Audit.Publisher
import CampusLedger.Campus.Reputation
import CampusLedger.Campus.Staking
import CampusLedger.Campus.Activity
import CampusLedger.Api.Body
import CampusLedger.Json.Access
import CampusLedger.Simulation.Session
import CampusLedger.Metrics.Exposition
import CampusLedger.Simulation.Ledger
import CampusLedger.Simulation.Script
import CampusLedger.Http.Target
import CampusLedger.Http.Handshake
import CampusLedger.Http.Route
import CampusLedger.Api.Requests
import CampusLedger.Api.Call
import CampusLedger.Api.ReputationRoutes
import CampusLedger.Api.StakingRoutes
import CampusLedger.Api.AssetRoutes
import CampusLedger.Api.ReadRoutes
import CampusLedger.Campus.Feed
import CampusLedger.Api.Server
import CampusLedger.Net.IpLiteral
import CampusLedger.Net.Url
import CampusLedger.Http.Head
import CampusLedger.Simulation.Http
import CampusLedger.Stream.Consumer
import CampusLedger.Simulation.Stream
import CampusLedger.Simulation.Feed
import CampusLedger.Simulation.Checks
import CampusLedger.Simulation.Run
import CampusLedger.Simulation.Stores
import CampusLedger.Cli.Flags
import CampusLedger.Cli.TokenCommand
import CampusLedger.Net.Address
import CampusLedger.Net.Dial
import CampusLedger.Stream.Brokers
import CampusLedger.Host.Files
import CampusLedger.Cache.Endpoint
import CampusLedger.Database.Connection
import CampusLedger.Server.Startup
import CampusLedger.Main
import CampusLedger.Proofs.Act
import CampusLedger.Proofs.Store
import CampusLedger.Proofs.Transactions
import CampusLedger.Proofs.Calls
import CampusLedger.Proofs.Atomicity
import CampusLedger.Proofs.Registry
import CampusLedger.Proofs.Books
import CampusLedger.Proofs.StakedTotal
import CampusLedger.Proofs.Composite
import CampusLedger.Proofs.BankConservation
import CampusLedger.Proofs.Escrow
import CampusLedger.Proofs.Outcomes
import CampusLedger.Proofs.Verdicts
import CampusLedger.Proofs.Lifecycle
import CampusLedger.Proofs.BankSupply
import CampusLedger.Proofs.Registration
import CampusLedger.Proofs.Deposits
import CampusLedger.Proofs.Untouched
import CampusLedger.Proofs.Redelivery
import CampusLedger.Proofs.AuditTrail
import CampusLedger.Proofs.WholeFloat
import CampusLedger.Proofs.FeedHub
import CampusLedger.Proofs.FeedGauge
import CampusLedger.Proofs.SlidingWindow
import CampusLedger.Proofs.ClaimRule
import CampusLedger.Proofs.ConsumerCommits
import CampusLedger.Proofs.CallConditions
import CampusLedger.Proofs.ScoreOrder
import CampusLedger.Proofs.StakeOrder
import CampusLedger.Proofs.Interleaving
import CampusLedger.Proofs.PublishOrder
import CampusLedger.Proofs.ScoreDelta
import CampusLedger.Proofs.CheckOrder
import CampusLedger.Proofs.OperationChecks
import CampusLedger.Proofs.AsyncPublisher
import CampusLedger.Proofs.OutboxSchedule
import CampusLedger.Proofs.WordArithmetic
import CampusLedger.Proofs.FailureCodes
import CampusLedger.Proofs.RequestBodies
import CampusLedger.Proofs.SettingsCounts
import CampusLedger.Proofs.Utf8Codec
import CampusLedger.Proofs.DecimalNumerals
import CampusLedger.Proofs.RetrySeconds
import CampusLedger.Proofs.AccountNames
import CampusLedger.Proofs.BlankTrimming
import CampusLedger.Proofs.DistinctTexts
import CampusLedger.Proofs.EventHistory
