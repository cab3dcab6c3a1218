import FaultConsole.Dashboard.Browser
import FaultConsole.Dashboard.Event
import FaultConsole.Main
import FaultConsole.Page.Views
import FaultConsole.Server.Respond
import FaultConsole.Service.Scripted
import FaultConsole.Proofs.Text.Blank
import FaultConsole.Proofs.Text.Percent
import FaultConsole.Proofs.Decimal.Numerals
import FaultConsole.Proofs.Time.Calendar
import FaultConsole.Proofs.Time.Timestamps
import FaultConsole.Proofs.Time.Spellings
import FaultConsole.Proofs.Json.Members
import FaultConsole.Proofs.Json.Reading
import FaultConsole.Proofs.Json.Records
import FaultConsole.Proofs.Json.Strings
import FaultConsole.Proofs.Json.RecordTexts
import FaultConsole.Proofs.Model.RoundTrip
import FaultConsole.Proofs.Listing.Order
import FaultConsole.Proofs.Listing.Tables
import FaultConsole.Proofs.Listing.Counts
import FaultConsole.Proofs.Listing.Choices
import FaultConsole.Proofs.Listing.Secrets
import FaultConsole.Proofs.Form.Drafts
import FaultConsole.Proofs.Form.Echo
import FaultConsole.Proofs.Form.ChosenTarget
import FaultConsole.Proofs.Page.Cells
import FaultConsole.Proofs.Page.Clicks
import FaultConsole.Proofs.Service.Endpoints
import FaultConsole.Proofs.Terminal.Invocations
import FaultConsole.Proofs.Terminal.Courses
import FaultConsole.Proofs.Terminal.Creations
import FaultConsole.Proofs.Terminal.Tables
import FaultConsole.Proofs.Settings.Handover
import FaultConsole.Proofs.Settings.Roots
import FaultConsole.Proofs.Outcome.Problems
import FaultConsole.Proofs.Outcome.Endings
import FaultConsole.Proofs.Outcome.Panels
import FaultConsole.Proofs.Dashboard.Effects
import FaultConsole.Proofs.Navigation.Tickets
import FaultConsole.Proofs.Dashboard.Chronicle
import FaultConsole.Proofs.Dashboard.Freshness
import FaultConsole.Proofs.Dashboard.StartUp
import FaultConsole.Proofs.Dashboard.Changes
import FaultConsole.Proofs.Dashboard.Failures
import FaultConsole.Proofs.Dashboard.Notices
import FaultConsole.Proofs.Dashboard.Waiting
import FaultConsole.Proofs.Dashboard.Quiescence
import FaultConsole.Proofs.Dashboard.Submissions
