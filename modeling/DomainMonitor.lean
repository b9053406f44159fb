import DomainMonitor.Lib.Transition
import DomainMonitor.Lib.KeyedTable
import DomainMonitor.Lib.Utf8
import DomainMonitor.Lib.Strings
import DomainMonitor.Lib.NetIP
import DomainMonitor.Lib.Regexp
import DomainMonitor.Lib.URL
import DomainMonitor.Lib.MediaType
import DomainMonitor.Lib.Loop
import DomainMonitor.Lib.Retry
import DomainMonitor.Lib.FanOut
import DomainMonitor.Basic
import DomainMonitor.Config
import DomainMonitor.Netcheck
import DomainMonitor.Dnscheck.Types
import DomainMonitor.Dnscheck.Checker
import DomainMonitor.Httpcheck.Types
import DomainMonitor.Httpcheck.Content
import DomainMonitor.Httpcheck.Checker
import DomainMonitor.Httpcheck.Outcome
import DomainMonitor.Httpcheck.Chain
import DomainMonitor.Classification.State
import DomainMonitor.Classification.Classify
import DomainMonitor.Monitor.Schema
import DomainMonitor.Monitor.Claim
import DomainMonitor.Monitor.Complete
import DomainMonitor.Monitor.Scheduler
import DomainMonitor.Monitor.Execute
import DomainMonitor.Monitor.Incidents
import DomainMonitor.Monitor.NonQualifying
import DomainMonitor.Monitor.Workers
import DomainMonitor.Monitor.ExactlyOnce
import DomainMonitor.Monitor.Terminal
import DomainMonitor.Monitor.Fencing
import DomainMonitor.Monitor.Statements
import DomainMonitor.Monitor.Exclusion
import DomainMonitor.Monitor.Evidence
import DomainMonitor.Monitor.DNSEvidence
import DomainMonitor.Monitor.HTTPEvidence
import DomainMonitor.Monitor.HTTPTexts
import DomainMonitor.Httpcheck.Deadline
import DomainMonitor.Monitor.RunDeadline
import DomainMonitor.Ispclass
import DomainMonitor.Lib.ChangeLog
import DomainMonitor.Lib.Encoding
import DomainMonitor.Lib.RowLock
import DomainMonitor.Probeprotocol
import DomainMonitor.Lib.Json
import DomainMonitor.Lib.Jsonb
import DomainMonitor.Probe.Results
import DomainMonitor.Monitor.StatusHistory
import DomainMonitor.Probe.StatusHistory
import DomainMonitor.Lib.OrderBy
import DomainMonitor.Lib.StepFunction
import DomainMonitor.Monitor.History
import DomainMonitor.Lib.Numeral
import DomainMonitor.Monitor.Uptime
import DomainMonitor.Lib.Rfc3339
import DomainMonitor.Lib.Uuid
import DomainMonitor.Queue.Outbox
import DomainMonitor.Queue.Dispatch
import DomainMonitor.Monitor.Enqueue
import DomainMonitor.Monitor.Schedules
import DomainMonitor.Monitor.Scheduling
import DomainMonitor.Lib.HashChain
import DomainMonitor.Lib.Marshal
import DomainMonitor.Audit.Store
import DomainMonitor.Audit.Chain
import DomainMonitor.Audit.Verify
import DomainMonitor.Probe.Envelope
import DomainMonitor.Lib.Decimal
import DomainMonitor.Lib.TimeParse
import DomainMonitor.Inventory.Normalize
import DomainMonitor.Inventory.Schema
import DomainMonitor.Inventory.Service
import DomainMonitor.Finance.Decimal
import DomainMonitor.Sheets.Model
import DomainMonitor.Sheets.Preview
import DomainMonitor.Sheets.Missing
import DomainMonitor.Sheets.Apply
import DomainMonitor.Sheets.Schedules
import DomainMonitor.Sheets.Effects
import DomainMonitor.Sheets.Fixpoint
import DomainMonitor.Sheets.Unmapped
import DomainMonitor.Sheets.StateMachine
import DomainMonitor.Agent.Jobs
import DomainMonitor.Lib.JsonParse
import DomainMonitor.Lib.Unmarshal
import DomainMonitor.Probeprotocol.Signing
import DomainMonitor.Agent.Token
import DomainMonitor.Lib.HostPort
import DomainMonitor.Lib.IPPrefix
import DomainMonitor.Safedial
import DomainMonitor.Httpcheck.SafeTransport
import DomainMonitor.Inventory.Lifecycle
import DomainMonitor.Inventory.Updates
import DomainMonitor.Reports
import DomainMonitor.Probe.BlockEvidence
import DomainMonitor.Probe.LatestStatus
import DomainMonitor.Classification.Hysteresis
import DomainMonitor.Finance.Engine
import DomainMonitor.Monitor.Verdicts
import DomainMonitor.Finance.Summary
import DomainMonitor.Finance.Budget
import DomainMonitor.Monitor.Retries
import DomainMonitor.Httpcheck.Redirects
import DomainMonitor.Dnscheck.Compare
import DomainMonitor.Rdap.Client
import DomainMonitor.Monitor.RetryAfter
import DomainMonitor.Finance.Tax
import DomainMonitor.Finance.Costs
import DomainMonitor.Sheets.Parsing
import DomainMonitor.Probe.Jobs
