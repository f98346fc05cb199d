import BoxOffice.Client.Calls
import BoxOffice.Client.Connection
import BoxOffice.Client.Interleaving
import BoxOffice.Client.Received
import BoxOffice.Client.Script
import BoxOffice.Config.Client
import BoxOffice.Config.Environment
import BoxOffice.Config.Server
import BoxOffice.Decimal.Shortest
import BoxOffice.Health
import BoxOffice.Hub.Basic
import BoxOffice.Hub.Calls
import BoxOffice.Hub.Foyer
import BoxOffice.Hub.Interleaving
import BoxOffice.Hub.Script
import BoxOffice.Hub.Session
import BoxOffice.Json.Basic
import BoxOffice.Json.Reader
import BoxOffice.Metrics.Exposition
import BoxOffice.Metrics.Tally
import BoxOffice.Network
import BoxOffice.Notice
import BoxOffice.Programme
import BoxOffice.Programme.Interleaving
import BoxOffice.Programme.Opening
import BoxOffice.Proofs.AllOrNothing
import BoxOffice.Proofs.Announcement
import BoxOffice.Proofs.Arrival
import BoxOffice.Proofs.Aside
import BoxOffice.Proofs.Attribution
import BoxOffice.Proofs.Capacity
import BoxOffice.Proofs.Client
import BoxOffice.Proofs.Connection
import BoxOffice.Proofs.Convergence
import BoxOffice.Proofs.Delivery
import BoxOffice.Proofs.Dispatch
import BoxOffice.Proofs.Enumeration
import BoxOffice.Proofs.Foreword
import BoxOffice.Proofs.Foyer
import BoxOffice.Proofs.Gauge
import BoxOffice.Proofs.Grammar
import BoxOffice.Proofs.Grouping
import BoxOffice.Proofs.Handler
import BoxOffice.Proofs.HandlerAlone
import BoxOffice.Proofs.Held
import BoxOffice.Proofs.Hub
import BoxOffice.Proofs.Isolation
import BoxOffice.Proofs.Ledger
import BoxOffice.Proofs.Life
import BoxOffice.Proofs.Lifecycle
import BoxOffice.Proofs.Linearization
import BoxOffice.Proofs.Listing
import BoxOffice.Proofs.LiveConnection
import BoxOffice.Proofs.Mark
import BoxOffice.Proofs.Notice
import BoxOffice.Proofs.Numeral
import BoxOffice.Proofs.Offers
import BoxOffice.Proofs.Onlooker
import BoxOffice.Proofs.Phantom
import BoxOffice.Proofs.Programme
import BoxOffice.Proofs.Purchase
import BoxOffice.Proofs.Purpose
import BoxOffice.Proofs.Received
import BoxOffice.Proofs.Reception
import BoxOffice.Proofs.Recognition
import BoxOffice.Proofs.Reply
import BoxOffice.Proofs.Request
import BoxOffice.Proofs.Rerendering
import BoxOffice.Proofs.Reservation
import BoxOffice.Proofs.Rest
import BoxOffice.Proofs.Rivals
import BoxOffice.Proofs.RoundTrip
import BoxOffice.Proofs.Run
import BoxOffice.Proofs.Rush
import BoxOffice.Proofs.Sales
import BoxOffice.Proofs.SeatHistory
import BoxOffice.Proofs.SeatPlan
import BoxOffice.Proofs.Sight
import BoxOffice.Proofs.Snapshot
import BoxOffice.Proofs.Sockets
import BoxOffice.Proofs.Traffic
import BoxOffice.Proofs.Trail
import BoxOffice.Proofs.Turn
import BoxOffice.Proofs.TurnedAway
import BoxOffice.Proofs.Undisturbed
import BoxOffice.Proofs.Visitor
import BoxOffice.Refusal
import BoxOffice.Reply
import BoxOffice.Request
import BoxOffice.Scenario
import BoxOffice.SeatPlan
import BoxOffice.SeatPlan.Document
import BoxOffice.Snapshot.Reading
import BoxOffice.Snapshot.Rendering
import BoxOffice.Text.Basic
import BoxOffice.Text.Blank
import BoxOffice.Text.Decimal
import BoxOffice.Text.Line
import BoxOffice.Web.Endpoint
import BoxOffice.Web.Error
import BoxOffice.Web.Interleaving
import BoxOffice.Web.Request
import BoxOffice.Web.Script
import BoxOffice.Web.Socket
import BoxOffice.Web.Target
import BoxOffice.Web.Upgrade
