import ProjectDesk.Config.Redacted
import ProjectDesk.Jobs.Http
import ProjectDesk.Logging.Setup
import ProjectDesk.Mail.Sender
import ProjectDesk.Proofs.Program.Exchange
import ProjectDesk.Proofs.Store.Soundness
import ProjectDesk.Rehearsal.Reader
import ProjectDesk.Rehearsal.Report
import ProjectDesk.Request.Codec
import ProjectDesk.Startup.Installation
import ProjectDesk.Startup.Wiring
import ProjectDesk.Proofs.Workflow.Question
import ProjectDesk.Proofs.Workflow.Coherence
import ProjectDesk.Proofs.Workflow.Account
import ProjectDesk.Proofs.Workflow.RecordLife
import ProjectDesk.Proofs.Workflow.Snapshot
import ProjectDesk.Proofs.Workflow.Winner
import ProjectDesk.Proofs.Dispatch.Tickets
import ProjectDesk.Proofs.Dispatch.Schedule
import ProjectDesk.Proofs.Dispatch.Settling
import ProjectDesk.Proofs.Dispatch.Progress
import ProjectDesk.Proofs.Dispatch.Course
import ProjectDesk.Proofs.Dispatch.Books
import ProjectDesk.Proofs.Dispatch.Ledger
import ProjectDesk.Proofs.Dispatch.DeliveryLedger
import ProjectDesk.Proofs.Dispatch.Shutdown
import ProjectDesk.Proofs.Dispatch.Locks
import ProjectDesk.Proofs.Dispatch.Standing
import ProjectDesk.Proofs.Dispatch.Conduct
import ProjectDesk.Proofs.Dispatch.Serial
import ProjectDesk.Proofs.Dispatch.Concurrency
import ProjectDesk.Proofs.Store.Origin
import ProjectDesk.Proofs.Workflow.Naming
import ProjectDesk.Proofs.Workflow.HandedOut
import ProjectDesk.Proofs.Workflow.OwnRequest
import ProjectDesk.Proofs.Dispatch.Finality
import ProjectDesk.Proofs.Json.Token
import ProjectDesk.Proofs.Json.Layout
import ProjectDesk.Proofs.Json.Kept
import ProjectDesk.Proofs.Time.Text
import ProjectDesk.Proofs.Json.Fields
import ProjectDesk.Proofs.Event.Codec
import ProjectDesk.Proofs.Event.RoundTrip
import ProjectDesk.Proofs.Rehearsal.Sitting
import ProjectDesk.Proofs.Dispatch.Unbroken
import ProjectDesk.Proofs.Handlers.RequestMail
import ProjectDesk.Proofs.Workflow.Granted
import ProjectDesk.Proofs.Workflow.Premises
import ProjectDesk.Proofs.Rehearsal.Mailroom
import ProjectDesk.Proofs.Workflow.DecisionMail
import ProjectDesk.Proofs.Text.Bytes
import ProjectDesk.Proofs.Text.Like
import ProjectDesk.Proofs.Store.Listing
import ProjectDesk.Proofs.Workflow.Listing
import ProjectDesk.Proofs.Store.Paging
import ProjectDesk.Proofs.Workflow.Paging
import ProjectDesk.Proofs.Json.Indented
import ProjectDesk.Proofs.Config.Codec
import ProjectDesk.Proofs.Config.Loading
import ProjectDesk.Proofs.Program.Attended
import ProjectDesk.Proofs.Workflow.Approval
import ProjectDesk.Proofs.Store.Awaiting
import ProjectDesk.Proofs.Workflow.Saga
import ProjectDesk.Proofs.Dispatch.Punctual
import ProjectDesk.Proofs.Dispatch.Handover
import ProjectDesk.Proofs.Dispatch.Timely
import ProjectDesk.Proofs.Dispatch.Timeouts
import ProjectDesk.Proofs.Store.Reservation
import ProjectDesk.Proofs.Workflow.Reservation
import ProjectDesk.Proofs.Config.Overlay
import ProjectDesk.Proofs.Startup.Capacity
import ProjectDesk.Proofs.Dispatch.Registration
import ProjectDesk.Proofs.Handlers.WebhookJob
import ProjectDesk.Proofs.Request.Name
import ProjectDesk.Proofs.Text.Cut
import ProjectDesk.Proofs.Dispatch.Feed
import ProjectDesk.Proofs.Program.InTurns
import ProjectDesk.Proofs.Handlers.ArtifactPull
import ProjectDesk.Proofs.Workflow.OwnerNames
import ProjectDesk.Proofs.Text.Decimal
import ProjectDesk.Proofs.Workflow.Addressing
import ProjectDesk.Proofs.Store.OwnerName
import ProjectDesk.Proofs.Handlers.UnknownType
import ProjectDesk.Proofs.Dispatch.History
