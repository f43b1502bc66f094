import BlogDesk.Network
import BlogDesk.Proofs.Store.Rehearsals
import BlogDesk.Proofs.Store.Tickets
import BlogDesk.Proofs.Store.Epochs
import BlogDesk.Proofs.Store.Identity
import BlogDesk.Proofs.Store.Handover
import BlogDesk.Proofs.Store.Edits
import BlogDesk.Proofs.Store.Loading
import BlogDesk.Proofs.Json.Text
import BlogDesk.Proofs.Json.Value
import BlogDesk.Proofs.Json.Record
import BlogDesk.Proofs.Wire
import BlogDesk.Proofs.Server.Operations
import BlogDesk.Proofs.Server.Requests
import BlogDesk.Proofs.Server.Calls
import BlogDesk.Proofs.Server.Sessions
import BlogDesk.Proofs.Network.Executions
import BlogDesk.Proofs.Network.Visitors
import BlogDesk.Proofs.Network.Ownership
import BlogDesk.Proofs.Server.Lifetime
import BlogDesk.Proofs.Server.Accounts
import BlogDesk.Proofs.Server.RoundTrip
import BlogDesk.Proofs.Server.Cookies
import BlogDesk.Proofs.Server.Mirror
import BlogDesk.Proofs.Network.Holdings
import BlogDesk.Proofs.Network.Awaited
import BlogDesk.Proofs.Network.Agreement
import BlogDesk.Proofs.Store.Slices
import BlogDesk.Proofs.Store.Courses
import BlogDesk.Proofs.Form
import BlogDesk.Proofs.Server.Refusals
import BlogDesk.Proofs.Server.Isolation
import BlogDesk.Proofs.Server.Logins
import BlogDesk.Proofs.Network.Carrying
import BlogDesk.Proofs.Network.Outcomes
import BlogDesk.Proofs.Network.Registrations
import BlogDesk.Proofs.Server.Replies
import BlogDesk.Proofs.Server.History
import BlogDesk.Proofs.Server.InPlace
import BlogDesk.Proofs.Server.Permanence
import BlogDesk.Proofs.Store.CallIds
import BlogDesk.Proofs.Listing
import BlogDesk.Proofs.Store.Landings
import BlogDesk.Proofs.Store.Reversal
import BlogDesk.Proofs.Store.Loads
import BlogDesk.Proofs.Store.Returns
import BlogDesk.Proofs.Store.Unheld
import BlogDesk.Proofs.Store.Delay
import BlogDesk.Proofs.Json.Skipping
import BlogDesk.Proofs.Json.Agreement
import BlogDesk.Proofs.Answers
import BlogDesk.Proofs.Interchange
import BlogDesk.Proofs.Text
import BlogDesk.Proofs.Route
import BlogDesk.Proofs.Server.CookieHeaders
