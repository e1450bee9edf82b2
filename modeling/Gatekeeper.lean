import Gatekeeper.Http.Catalogue
import Gatekeeper.Http.Handler
import Gatekeeper.Proofs.Json.Sequence
import Gatekeeper.Proofs.Time.Rfc3339
import Gatekeeper.Proofs.Json.Form
import Gatekeeper.Proofs.Json.Value
import Gatekeeper.Proofs.Json.Record
import Gatekeeper.Proofs.Records
import Gatekeeper.Proofs.Session.Cache
import Gatekeeper.Proofs.Table
import Gatekeeper.Proofs.Time.Timestamp
import Gatekeeper.Proofs.Flow
import Gatekeeper.Proofs.FailStop
import Gatekeeper.Proofs.Session.Tenure
import Gatekeeper.Proofs.Session.Exact
import Gatekeeper.Proofs.Session.Coherence
import Gatekeeper.Proofs.Session.Window
import Gatekeeper.Proofs.Session.Guard
import Gatekeeper.Proofs.Session.SignOut
import Gatekeeper.Proofs.Code.Account
import Gatekeeper.Proofs.Code.Errand
import Gatekeeper.Proofs.Code.Caps
import Gatekeeper.Proofs.Permission
import Gatekeeper.Proofs.Workspace
import Gatekeeper.Proofs.Authorize
import Gatekeeper.Proofs.Connector
import Gatekeeper.Proofs.Course
import Gatekeeper.Proofs.OneUse
import Gatekeeper.Proofs.Provenance
import Gatekeeper.Proofs.Readable
import Gatekeeper.Proofs.Separation
import Gatekeeper.Proofs.Session.Sweep
import Gatekeeper.Proofs.Vaults
import Gatekeeper.Proofs.SignIn
import Gatekeeper.Proofs.SpentChallenge
import Gatekeeper.Proofs.Addresses
import Gatekeeper.Proofs.Membership
import Gatekeeper.Proofs.Text.Parts
import Gatekeeper.Proofs.CliRoutes
import Gatekeeper.Proofs.Horizon
import Gatekeeper.Proofs.Code.Purge
import Gatekeeper.Proofs.Session.Writes
import Gatekeeper.Proofs.Session.Failure
import Gatekeeper.Proofs.Purge
import Gatekeeper.Proofs.Session.Recency
