import Redial.Json.Reader
import Redial.Json.Writer
import Redial.Scenario.Canned
import Redial.Scenario.Containers
import Redial.Scenario.Lifetime
import Redial.Scenario.Making
import Redial.Scenario.Trial
import Redial.Proofs.Account.Consult
import Redial.Proofs.Account.Attempt
import Redial.Proofs.Account.Reports
import Redial.Proofs.Frame
import Redial.Proofs.Account.Course
import Redial.Proofs.Budget
import Redial.Proofs.Triggers
import Redial.Proofs.Returns
import Redial.Proofs.ExactTimes
import Redial.Proofs.Failures
import Redial.Proofs.ClosedForm.Attempts
import Redial.Proofs.ClosedForm.Memoryless
import Redial.Proofs.ClosedForm.Runs
import Redial.Proofs.Stripped
import Redial.Proofs.Likeness.Basic
import Redial.Proofs.Likeness.Execution
import Redial.Proofs.Logging
import Redial.Proofs.Secrets
import Redial.Proofs.FutureSteps
import Redial.Proofs.FutureProtocol
import Redial.Proofs.Likeness.Travel
import Redial.Proofs.Tasks
import Redial.Proofs.Retries
import Redial.Proofs.Rewriting
import Redial.Proofs.Endings
import Redial.Proofs.CallbackProtocol
import Redial.Proofs.Answers
import Redial.Proofs.Cancellation
import Redial.Proofs.Refinement
import Redial.Proofs.Recorded
import Redial.Proofs.Raising
import Redial.Proofs.Overdrawn
import Redial.Proofs.Redirection
import Redial.Proofs.Url.Parts
import Redial.Proofs.Url.Splitting
import Redial.Proofs.Url.Writing
import Redial.Proofs.Url.Hosts
import Redial.Proofs.Url.Rereading
import Redial.Proofs.Url.Joining
import Redial.Proofs.Destinations
import Redial.Proofs.Headers.Entries
import Redial.Proofs.Headers.Adding
import Redial.Proofs.Headers.WireRoundTrip
import Redial.Proofs.Headers.UserAgent
import Redial.Proofs.ContentLines
import Redial.Proofs.Payload
import Redial.Proofs.Headers.Dictionary
import Redial.Proofs.Headers.Table
import Redial.Proofs.Minutes
import Redial.Proofs.Attribution.Attempts
import Redial.Proofs.Attribution.Runs
import Redial.Proofs.Url.Origin
import Redial.Proofs.RedirectRule
import Redial.Proofs.Url.DotSegments
import Redial.Proofs.Url.PathReferences
import Redial.Proofs.Backoff.Hosting
import Redial.Proofs.Backoff.Scripted
import Redial.Proofs.Backoff.Histories
import Redial.Proofs.Backoff.Exact
import Redial.Proofs.Backoff.Pauses
import Redial.Proofs.Backoff.TotalPause
import Redial.Proofs.Backoff.Intervals
import Redial.Proofs.Backoff.Growth
import Redial.Proofs.MediaGrammar
import Redial.Proofs.HandlerTrees
import Redial.Proofs.SharedSettings
