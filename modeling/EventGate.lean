import EventGate.Account.Event
import EventGate.Account.Fault
import EventGate.Account.Manifest
import EventGate.Account.Pipeline
import EventGate.Account.Service
import EventGate.Channel.Inbox
import EventGate.Channel.Line
import EventGate.Channel.LogChannel
import EventGate.Channel.Registry
import EventGate.Channel.Validator
import EventGate.Config
import EventGate.Decimal.Binary64
import EventGate.Decimal.Layout
import EventGate.Decimal.Reader
import EventGate.Decimal.Shortest
import EventGate.Digest.Keyed
import EventGate.Digest.Sha256
import EventGate.Event.Basic
import EventGate.Event.Identifier
import EventGate.Event.Input
import EventGate.Event.Naming
import EventGate.Fault
import EventGate.Json.Access
import EventGate.Json.Basic
import EventGate.Json.Defect
import EventGate.Json.Numeral
import EventGate.Json.Reader
import EventGate.Json.Shape
import EventGate.Json.Writer
import EventGate.Log.Buffer
import EventGate.Log.Folder
import EventGate.Log.Packed
import EventGate.Log.Rotation
import EventGate.Log.Writer
import EventGate.Main
import EventGate.Manifest.Basic
import EventGate.Personal.Hashing
import EventGate.Pipeline.Context
import EventGate.Pipeline.Gate
import EventGate.Pipeline.HostStage
import EventGate.Pipeline.ManifestStage
import EventGate.Pipeline.Priority
import EventGate.Pipeline.Processor
import EventGate.Pipeline.RateWindow
import EventGate.Pipeline.SettingTable
import EventGate.Pipeline.Stage
import EventGate.Proofs.Accounting
import EventGate.Proofs.Admission
import EventGate.Proofs.Alike
import EventGate.Proofs.BagHistory
import EventGate.Proofs.Bags
import EventGate.Proofs.Calls
import EventGate.Proofs.ChannelRegistry
import EventGate.Proofs.Delivery
import EventGate.Proofs.Digests
import EventGate.Proofs.DistinctSettings
import EventGate.Proofs.Draining
import EventGate.Proofs.Dropping
import EventGate.Proofs.Errands
import EventGate.Proofs.FinalSigma
import EventGate.Proofs.Fingerprint
import EventGate.Proofs.Frames
import EventGate.Proofs.FriendlyEvents
import EventGate.Proofs.HoldingBack
import EventGate.Proofs.Jobs
import EventGate.Proofs.KeyedLists
import EventGate.Proofs.LastGoodManifest
import EventGate.Proofs.LiteralMatches
import EventGate.Proofs.Loading
import EventGate.Proofs.LogFolder
import EventGate.Proofs.LogLines
import EventGate.Proofs.LogWriting
import EventGate.Proofs.LowerCase
import EventGate.Proofs.Members
import EventGate.Proofs.NameSets
import EventGate.Proofs.Notifications
import EventGate.Proofs.Numbers
import EventGate.Proofs.OneLine
import EventGate.Proofs.OptOut
import EventGate.Proofs.OptOutProperties
import EventGate.Proofs.OrderlyTurns
import EventGate.Proofs.OverrideTexts
import EventGate.Proofs.Passage
import EventGate.Proofs.PersonalValues
import EventGate.Proofs.PlainValues
import EventGate.Proofs.QuietService
import EventGate.Proofs.RateLimit
import EventGate.Proofs.RawTexts
import EventGate.Proofs.ReadingBack
import EventGate.Proofs.Readmission
import EventGate.Proofs.RecentSettings
import EventGate.Proofs.RefreshedManifest
import EventGate.Proofs.RegistryHistory
import EventGate.Proofs.Reopenings
import EventGate.Proofs.Repeats
import EventGate.Proofs.Requests
import EventGate.Proofs.ReservedNames
import EventGate.Proofs.ReservedProperties
import EventGate.Proofs.Restriction
import EventGate.Proofs.ReusedRecords
import EventGate.Proofs.RuleGrammar
import EventGate.Proofs.RuleOrder
import EventGate.Proofs.RuleParts
import EventGate.Proofs.RuleWalk
import EventGate.Proofs.Rules
import EventGate.Proofs.Sending
import EventGate.Proofs.SetAside
import EventGate.Proofs.SharedFlights
import EventGate.Proofs.StageOrder
import EventGate.Proofs.StageRun
import EventGate.Proofs.Stamps
import EventGate.Proofs.StandardStages
import EventGate.Proofs.SteadyService
import EventGate.Proofs.Switches
import EventGate.Proofs.TimedOutDisposal
import EventGate.Proofs.TreeWalk
import EventGate.Proofs.Turns
import EventGate.Proofs.UnseenChanges
import EventGate.Property.Bag
import EventGate.Property.NameSet
import EventGate.Property.Value
import EventGate.Refresh.Flight
import EventGate.Refresh.Location
import EventGate.Refresh.Manager
import EventGate.Refresh.Source
import EventGate.Refresh.Storage
import EventGate.Rule.Action
import EventGate.Rule.Comparison
import EventGate.Rule.Condition
import EventGate.Rule.Route
import EventGate.Rule.Tree
import EventGate.Schedule.Agenda
import EventGate.Schedule.Drain
import EventGate.Schedule.Guard
import EventGate.Schedule.Plan
import EventGate.Schedule.Scheduler
import EventGate.Service.Basic
import EventGate.Service.Live
import EventGate.Service.Sink
import EventGate.Session
import EventGate.Text.Blank
import EventGate.Text.CaseTable
import EventGate.Text.CodeRange
import EventGate.Text.Fold
import EventGate.Text.Lines
import EventGate.Text.PrintTable
import EventGate.Text.Quoted
import EventGate.Text.Similarity
import EventGate.Text.Split
import EventGate.Tool.Agent
import EventGate.Tool.Command
import EventGate.Tool.Report
import EventGate.Tool.Usage
