import Pxtly.Agent.Answers
import Pxtly.Agent.GroqClient
import Pxtly.Assets.Agreement
import Pxtly.Assets.Arguments
import Pxtly.Assets.Compensation
import Pxtly.Assets.Delivery
import Pxtly.Assets.EventProcessing
import Pxtly.Assets.Executions
import Pxtly.Assets.Formats
import Pxtly.Assets.FullSynchronisation
import Pxtly.Assets.Interleaving
import Pxtly.Assets.Models
import Pxtly.Assets.Overwrites
import Pxtly.Assets.Reading
import Pxtly.Assets.Recording
import Pxtly.Assets.References
import Pxtly.Assets.Saga
import Pxtly.Assets.Schemas
import Pxtly.Assets.Search
import Pxtly.Assets.Service
import Pxtly.Assets.Synchronisation
import Pxtly.Assets.Validation
import Pxtly.Assets.Valuations
import Pxtly.Audit.Hashes
import Pxtly.Audit.Integrity
import Pxtly.Audit.Latex
import Pxtly.Audit.Trail
import Pxtly.Audit.Verdicts
import Pxtly.Auth.CodeExchanges
import Pxtly.Auth.Dependencies
import Pxtly.Auth.Directory
import Pxtly.Auth.Erasure
import Pxtly.Auth.Identity
import Pxtly.Auth.Links
import Pxtly.Auth.LoginStates
import Pxtly.Auth.Logout
import Pxtly.Auth.Middleware
import Pxtly.Auth.Models
import Pxtly.Auth.Protection
import Pxtly.Auth.Revocation
import Pxtly.Auth.Sessions
import Pxtly.Auth.SigningKeys
import Pxtly.Chaincode.Access
import Pxtly.Chaincode.AccessControl
import Pxtly.Chaincode.Calls
import Pxtly.Chaincode.Compliance
import Pxtly.Chaincode.Context
import Pxtly.Chaincode.Contract
import Pxtly.Chaincode.Dispatch
import Pxtly.Chaincode.Events
import Pxtly.Chaincode.History
import Pxtly.Chaincode.Isolation
import Pxtly.Chaincode.Models
import Pxtly.Chaincode.Operations
import Pxtly.Chaincode.Provenance
import Pxtly.Chaincode.Reporting
import Pxtly.Cli.AuditLog
import Pxtly.Cli.AuditRedaction
import Pxtly.Cli.Cache
import Pxtly.Cli.Client
import Pxtly.Cli.Commands
import Pxtly.Cli.EventFeed
import Pxtly.Cli.Events
import Pxtly.Cli.Keyring
import Pxtly.Cli.Logins
import Pxtly.Cli.OfflineCache
import Pxtly.Cli.Refreshing
import Pxtly.Cli.Settings
import Pxtly.Cli.Writes
import Pxtly.Compliance.AuditAddresses
import Pxtly.Compliance.ExactScoring
import Pxtly.Compliance.Files
import Pxtly.Compliance.Fixtures
import Pxtly.Compliance.Gates
import Pxtly.Compliance.Kyc
import Pxtly.Compliance.LegalScores
import Pxtly.Compliance.Matches
import Pxtly.Compliance.Reports
import Pxtly.Compliance.Router
import Pxtly.Compliance.Sanctions
import Pxtly.Compliance.SarReferences
import Pxtly.Compliance.Scoring
import Pxtly.Compliance.Screening
import Pxtly.Compliance.Service
import Pxtly.Compliance.Snapshots
import Pxtly.Compliance.Suspicions
import Pxtly.Core.CircuitBreaker
import Pxtly.Core.ClientIp
import Pxtly.Core.Cooldown
import Pxtly.Core.LogFilter
import Pxtly.Core.LogTemplates
import Pxtly.Core.Masking
import Pxtly.Core.Probes
import Pxtly.Core.RateLimiter
import Pxtly.Core.Redaction
import Pxtly.Core.Secrets
import Pxtly.Core.Sequential
import Pxtly.Events.Router
import Pxtly.FabricClient.Breaker
import Pxtly.FabricClient.Daemon
import Pxtly.FabricClient.Evaluation
import Pxtly.FabricClient.EventRate
import Pxtly.FabricClient.Listener
import Pxtly.FabricClient.Network
import Pxtly.FabricClient.Rejections
import Pxtly.FabricClient.Responses
import Pxtly.FabricClient.Retry
import Pxtly.FabricClient.Wallet
import Pxtly.Fhe.Scorer
import Pxtly.Foundation.Arithmetic
import Pxtly.Foundation.Base64
import Pxtly.Foundation.Binary64
import Pxtly.Foundation.Bytes
import Pxtly.Foundation.CheckedInserts
import Pxtly.Foundation.Datetimes
import Pxtly.Foundation.DecimalPlaces
import Pxtly.Foundation.Embedding
import Pxtly.Foundation.Errors
import Pxtly.Foundation.EventSourcing
import Pxtly.Foundation.Expiring
import Pxtly.Foundation.FormTexts
import Pxtly.Foundation.Framing
import Pxtly.Foundation.GoQuotes
import Pxtly.Foundation.HashTree
import Pxtly.Foundation.HexIntegers
import Pxtly.Foundation.Histories
import Pxtly.Foundation.Interleavings
import Pxtly.Foundation.JacobianCoordinates
import Pxtly.Foundation.Json
import Pxtly.Foundation.JsonReader
import Pxtly.Foundation.JsonTexts
import Pxtly.Foundation.JsonWeights
import Pxtly.Foundation.Lines
import Pxtly.Foundation.Locks
import Pxtly.Foundation.Numerals
import Pxtly.Foundation.Patterns
import Pxtly.Foundation.Placeholders
import Pxtly.Foundation.PrimeOrder
import Pxtly.Foundation.Primes
import Pxtly.Foundation.Program
import Pxtly.Foundation.Python
import Pxtly.Foundation.QuotedTexts
import Pxtly.Foundation.Replica
import Pxtly.Foundation.Rounding
import Pxtly.Foundation.RowLocks
import Pxtly.Foundation.Runs
import Pxtly.Foundation.Sha256
import Pxtly.Foundation.SharedObjects
import Pxtly.Foundation.StampedLogs
import Pxtly.Foundation.Substitutions
import Pxtly.Foundation.Tasks
import Pxtly.Foundation.Texts
import Pxtly.Foundation.Timestamps
import Pxtly.Foundation.TokenBuckets
import Pxtly.Foundation.Transactions
import Pxtly.Foundation.UniqueKeys
import Pxtly.Foundation.Validation
import Pxtly.Grpc.Assets
import Pxtly.Grpc.Authorisation
import Pxtly.Grpc.Compliance
import Pxtly.Grpc.Credentials
import Pxtly.Grpc.Methods
import Pxtly.Tribunal.Ballots
import Pxtly.Tribunal.Copying
import Pxtly.Tribunal.Models
import Pxtly.Tribunal.Opening
import Pxtly.Tribunal.PhaseOrder
import Pxtly.Tribunal.Phases
import Pxtly.Tribunal.Service
import Pxtly.Tribunal.Sessions
import Pxtly.Tribunal.Settlement
import Pxtly.Tribunal.Tally
import Pxtly.Tribunal.Votes
import Pxtly.Zkp.Commitment
import Pxtly.Zkp.Crypto
import Pxtly.Zkp.CurveGroup
import Pxtly.Zkp.Extraction
import Pxtly.Zkp.Issuance
import Pxtly.Zkp.Issuer
import Pxtly.Zkp.Merkle
import Pxtly.Zkp.Models
import Pxtly.Zkp.Neighbours
import Pxtly.Zkp.NonMembership
import Pxtly.Zkp.Nullifiers
import Pxtly.Zkp.Prover
import Pxtly.Zkp.Replay
import Pxtly.Zkp.Revocation
import Pxtly.Zkp.Router
import Pxtly.Zkp.SanctionsTree
import Pxtly.Zkp.Separation
import Pxtly.Zkp.Soundness
import Pxtly.Zkp.Standing
import Pxtly.Zkp.Verifier
