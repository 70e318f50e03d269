import SessionBroker.Args.Basic
import SessionBroker.Args.Parser
import SessionBroker.Bank.Basic
import SessionBroker.Bank.Run
import SessionBroker.Broker.Basic
import SessionBroker.Broker.Provider
import SessionBroker.Broker.Provision
import SessionBroker.Broker.Registry
import SessionBroker.Broker.Report
import SessionBroker.Broker.Request
import SessionBroker.Broker.Response
import SessionBroker.Broker.Run
import SessionBroker.Capability
import SessionBroker.Command.Basic
import SessionBroker.Command.Replay
import SessionBroker.Command.Script
import SessionBroker.Config.Basic
import SessionBroker.Config.File
import SessionBroker.Document
import SessionBroker.Environment.Basic
import SessionBroker.Environment.Client
import SessionBroker.Environment.Parent
import SessionBroker.Error
import SessionBroker.Form.Domain
import SessionBroker.Form.Rule
import SessionBroker.IdSpace
import SessionBroker.Instant
import SessionBroker.Json.Basic
import SessionBroker.Json.Document
import SessionBroker.Json.Number
import SessionBroker.Json.Printer
import SessionBroker.Json.Quoted
import SessionBroker.Json.Reader
import SessionBroker.Label
import SessionBroker.Main
import SessionBroker.Phase
import SessionBroker.Proofs.Tables
import SessionBroker.Proofs.Transfers
import SessionBroker.Proofs.FreshIds
import SessionBroker.Quota
import SessionBroker.Routing.Matcher
import SessionBroker.Routing.Router
import SessionBroker.Routing.Rule
import SessionBroker.Service.Basic
import SessionBroker.Service.Custom
import SessionBroker.Service.Desk
import SessionBroker.Service.Local
import SessionBroker.Service.Outcome
import SessionBroker.Service.Parent
import SessionBroker.Session
import SessionBroker.Signal
import SessionBroker.Table
import SessionBroker.Text.Basic
import SessionBroker.Text.Magnitude
import SessionBroker.Toml.Basic
import SessionBroker.Toml.Lexeme
import SessionBroker.Toml.Reader
import SessionBroker.Toml.Tree
import SessionBroker.Uuid
import SessionBroker.Word
import SessionBroker.Proofs.Lifecycle
import SessionBroker.Proofs.Surroundings
import SessionBroker.Proofs.Asking
import SessionBroker.Proofs.Providers
import SessionBroker.Proofs.Requests
import SessionBroker.Proofs.Effects
import SessionBroker.Proofs.Creating
import SessionBroker.Proofs.Closing
import SessionBroker.Proofs.Workings
import SessionBroker.Proofs.Settling
import SessionBroker.Proofs.Changes
import SessionBroker.Proofs.Operations
import SessionBroker.Proofs.Parts
import SessionBroker.Proofs.Histories
import SessionBroker.Proofs.Consistency
import SessionBroker.Proofs.ChildLedger
import SessionBroker.Proofs.Answers
import SessionBroker.Proofs.Endings
import SessionBroker.Proofs.CloseWins
import SessionBroker.Proofs.Correspondence
import SessionBroker.Proofs.Responding
import SessionBroker.Proofs.Isolation
import SessionBroker.Proofs.ChildRequests
import SessionBroker.Proofs.Steadiness
import SessionBroker.Proofs.Upgrading
import SessionBroker.Proofs.UpgradeBooks
import SessionBroker.Proofs.Calls
import SessionBroker.Proofs.ParentIds
import SessionBroker.Proofs.Standing
import SessionBroker.Proofs.Custody
import SessionBroker.Proofs.DeskSessions
import SessionBroker.Proofs.AnyServices
import SessionBroker.Proofs.Waiting
import SessionBroker.Proofs.Leftovers
import SessionBroker.Proofs.ParentCalls
import SessionBroker.Proofs.ParentRequests
import SessionBroker.Proofs.Alerts
import SessionBroker.Proofs.Posting
import SessionBroker.Proofs.Wakeups
import SessionBroker.Proofs.ParentLedger
import SessionBroker.Proofs.LocalObjects
import SessionBroker.Proofs.OwnObjects
import SessionBroker.Proofs.DeskWalks
import SessionBroker.Proofs.Thinning
import SessionBroker.Proofs.Reaping
import SessionBroker.Proofs.Announcing
import SessionBroker.Proofs.Reversals
import SessionBroker.Proofs.FailedUpgrades
import SessionBroker.Proofs.Writings
import SessionBroker.Proofs.Relabelling
import SessionBroker.Proofs.Ledgers
import SessionBroker.Proofs.LateAnswers
import SessionBroker.Proofs.Commuting
import SessionBroker.Proofs.Configurations
import SessionBroker.Proofs.Retrying
import SessionBroker.Proofs.Demands
import SessionBroker.Proofs.Fallbacks
import SessionBroker.Proofs.Expanding
import SessionBroker.Proofs.AnyFactories
import SessionBroker.Proofs.LocalTurns
import SessionBroker.Proofs.Registries
import SessionBroker.Proofs.Removals
import SessionBroker.Proofs.Reclosing
import SessionBroker.Proofs.Heeding
import SessionBroker.Proofs.Rejections
import SessionBroker.Proofs.Precedence
import SessionBroker.Proofs.Overlays
import SessionBroker.Proofs.Settings
import SessionBroker.Proofs.Separators
import SessionBroker.Proofs.Nesting
import SessionBroker.Proofs.Routable
import SessionBroker.Proofs.Allocations
import SessionBroker.Proofs.Grammar
import SessionBroker.Proofs.Amounts
import SessionBroker.Proofs.Assignments
import SessionBroker.Proofs.Hexadecimals
import SessionBroker.Proofs.Identifiers
