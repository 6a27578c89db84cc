import PingGuard.Ssrf
import PingGuard.Library.UrlSplit
import PingGuard.Net.Validate
import PingGuard.Status
import PingGuard.Net.Probe
import PingGuard.Net.Pinning
import PingGuard.Net.Returns
import PingGuard.Net.Redirects
import PingGuard.Library.SerialTable
import PingGuard.Library.Transition
import PingGuard.Models
import PingGuard.Schemas
import PingGuard.Api
import PingGuard.Library.OrderedBatch
import PingGuard.Sweep
import PingGuard.SweepPhase
import PingGuard.SweepReach
import PingGuard.SweepOutcome
import PingGuard.ProbeTask
import PingGuard.Concurrent.Locks
import PingGuard.Update
import PingGuard.Concurrent.Rows
import PingGuard.Concurrent.Recovery
import PingGuard.Concurrent.Spacing
import PingGuard.Concurrent.Checks
import PingGuard.Concurrent.Updates
import PingGuard.Lifecycle
import PingGuard.Frequency
import PingGuard.Fairness
import PingGuard.Concurrent.Cap
import PingGuard.Library.Exceptions
import PingGuard.Library.FirstOccurrence
import PingGuard.Net.Validators
import PingGuard.Net.ValidatorsOfProbe
import PingGuard.ProbeTask.Harness
import PingGuard.ProbeTask.Refinement
import PingGuard.ProbeTask.Attempts
import PingGuard.Library.IpCase
import PingGuard.Registration
import PingGuard.Library.Commands
import PingGuard.Library.ExpiringStore
import PingGuard.RateLimit
import PingGuard.RateLimit.Agreement
import PingGuard.RateLimit.Calls
import PingGuard.RateLimit.Admission
import PingGuard.RateLimit.Window
import PingGuard.Concurrent.Commute
import PingGuard.Concurrent.Deletion
import PingGuard.UpdateAnswer
import PingGuard.ProbeTask.Transactions
import PingGuard.ProbeTask.Retries
import PingGuard.Retention
import PingGuard.Net.Budget
import PingGuard.Net.Coherence
import PingGuard.Library.WrittenUrl
import PingGuard.Net.PinnedRequest
import PingGuard.Net.BodyBytes
import PingGuard.RateLimit.RetryAfter
import PingGuard.Library.AuthorityUrl
import PingGuard.Urls
import PingGuard.Redaction
import PingGuard.Library.UnicodeCase
import PingGuard.Redaction.RoundTrip
import PingGuard.Columns
import PingGuard.Migration
import PingGuard.Cors
import PingGuard.Library.SqlTable
import PingGuard.Net.Bridges
import PingGuard.Concurrent.Advances
import PingGuard.Concurrent.Progress
import PingGuard.Concurrent.Handover
import PingGuard.Concurrent.History
import PingGuard.Library.FixedWindow
import PingGuard.Service
import PingGuard.Service.Budget
import PingGuard.Library.Pages
import PingGuard.Service.Pages
import PingGuard.Library.TableImage
import PingGuard.Service.Registry
import PingGuard.Concurrent.Latest
import PingGuard.Concurrent.Targets
import PingGuard.Service.Results
import PingGuard.RateLimit.Failures
import PingGuard.Library.JsonText
import PingGuard.Logging
import PingGuard.Service.Revisions
import PingGuard.Concurrent.Pruning
import PingGuard.Concurrent.Waiting
import PingGuard.Library.SqlCatalog
import PingGuard.Migration.Catalog
import PingGuard.Migration.Chain
import PingGuard.Concurrent.Backlog
