import ControlPlane.Configuration.Variables
import ControlPlane.Fixtures
import ControlPlane.Proofs.Policy.Course
import ControlPlane.Rehearsal.Attempts
import ControlPlane.Rehearsal.Broker
import ControlPlane.Report.Configuration
import ControlPlane.Report.Rehearsal
import ControlPlane.Report.Session
import ControlPlane.Proofs.Policy.Atomicity
import ControlPlane.Proofs.Rehearsal.Crew
import ControlPlane.Proofs.Rehearsal.Stage
import ControlPlane.Proofs.Lock.Attempt
import ControlPlane.Proofs.Lock.History
import ControlPlane.Proofs.Lock.Exclusion
import ControlPlane.Proofs.Lock.Release
import ControlPlane.Proofs.Policy.Critical
import ControlPlane.Proofs.Policy.Contention
import ControlPlane.Proofs.Policy.Edits
import ControlPlane.Proofs.Policy.GuardStatement
import ControlPlane.Proofs.Policy.GuardedSet
import ControlPlane.Proofs.Policy.Enforcement
import ControlPlane.Proofs.Compensation.Nested
import ControlPlane.Proofs.Deeds
import ControlPlane.Proofs.Session.Course
import ControlPlane.Proofs.Session.Freshness
import ControlPlane.Proofs.Session.Provenance
import ControlPlane.Proofs.Session.Control
import ControlPlane.Proofs.Session.Source
import ControlPlane.Proofs.Json.RoundTrip
import ControlPlane.Proofs.Time.Text
import ControlPlane.Proofs.Lock.Rows
import ControlPlane.Proofs.Lock.Refinement
import ControlPlane.Proofs.Policy.RoundTrip
import ControlPlane.Proofs.Time.Calendar
import ControlPlane.Proofs.Policy.Rules
import ControlPlane.Proofs.Policy.Revision
import ControlPlane.Proofs.Policy.OrderedMap
import ControlPlane.Proofs.Lock.Identity
import ControlPlane.Proofs.Lock.Bracket
import ControlPlane.Proofs.Lock.Balance
import ControlPlane.Proofs.Configuration.Construction
import ControlPlane.Proofs.Lock.Changes
import ControlPlane.Proofs.Lock.Serving
import ControlPlane.Proofs.Lock.Counts
import ControlPlane.Proofs.Session.Unseen
import ControlPlane.Proofs.Session.Secrecy
import ControlPlane.Proofs.Retry
import ControlPlane.Proofs.Lock.Reporting
import ControlPlane.Proofs.Policy.Principals
import ControlPlane.Proofs.Policy.Withdrawal
import ControlPlane.Proofs.Json.Size
import ControlPlane.Proofs.Policy.Shrinking
import ControlPlane.Proofs.Configuration.Agreement
import ControlPlane.Proofs.Policy.Composition
import ControlPlane.Proofs.Session.Expiry
import ControlPlane.Proofs.Lock.Codec
import ControlPlane.Proofs.Lock.Scanning
import ControlPlane.Proofs.Lock.Staleness
import ControlPlane.Proofs.Session.Keeping
import ControlPlane.Proofs.Session.Budget
import ControlPlane.Proofs.Session.Grants
import ControlPlane.Proofs.Session.Upkeep
import ControlPlane.Proofs.Session.Frugality
import ControlPlane.Proofs.Session.RoleNames
