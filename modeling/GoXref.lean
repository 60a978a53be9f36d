import GoXref.Main
import GoXref.Session
import GoXref.Proofs.Document.Before
import GoXref.Proofs.Document.Narrowing
import GoXref.Proofs.Document.Order
import GoXref.Proofs.Document.WordSpan
import GoXref.Proofs.Finder.Calls
import GoXref.Proofs.Finder.Found
import GoXref.Proofs.Finder.Saving
import GoXref.Proofs.Json.Grammar
import GoXref.Proofs.Listing.Kept
import GoXref.Proofs.Listing.Slipped
import GoXref.Proofs.Listing.Terminated
import GoXref.Proofs.Listing.Violation
import GoXref.Proofs.Listing.Written
import GoXref.Proofs.Location
import GoXref.Proofs.Location.Agreement
import GoXref.Proofs.Path
import GoXref.Proofs.Program.ReadBack
import GoXref.Proofs.Json.Reader
import GoXref.Proofs.Payload
import GoXref.Proofs.Host.Muted
import GoXref.Proofs.Host.CurrentPath
import GoXref.Proofs.Program.Formats
import GoXref.Proofs.Host.Run
import GoXref.Proofs.Program.Offset
import GoXref.Proofs.Finder.WithinWord
import GoXref.Proofs.Path.Resolved
import GoXref.Proofs.Listing.Companion
import GoXref.Proofs.Listing.Returns
import GoXref.Proofs.Finder.Uri
import GoXref.Proofs.Finder.Drive
import GoXref.Proofs.Listing.Complaint
import GoXref.Proofs.Settings
import GoXref.Proofs.Text.Content
