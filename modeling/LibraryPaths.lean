import LibraryPaths.Main
import LibraryPaths.Proofs.Session.Delivery
import LibraryPaths.Proofs.Session.Schedules
import LibraryPaths.Proofs.Session.Unread
import LibraryPaths.Session.Loop
import LibraryPaths.Uri.Reader
import LibraryPaths.Proofs.Session.Bookkeeping
import LibraryPaths.Proofs.Session.Replaced
import LibraryPaths.Proofs.Session.Rescan
import LibraryPaths.Proofs.FileSystem.Settled
import LibraryPaths.Proofs.Resolution.Collected
import LibraryPaths.Proofs.Session.Referenced
import LibraryPaths.Proofs.Session.QuietWindow
import LibraryPaths.Proofs.Session.Subscribed
import LibraryPaths.Proofs.Resolution.Frozen
import LibraryPaths.Proofs.Packages.Pruning
import LibraryPaths.Proofs.Session.Retry
import LibraryPaths.Proofs.Session.Signals
import LibraryPaths.Proofs.Session.Views
import LibraryPaths.Proofs.Session.Reread
import LibraryPaths.Proofs.Reference.Grammar
import LibraryPaths.Proofs.Resolution.Probes
import LibraryPaths.Proofs.Resolution.Regained
import LibraryPaths.Proofs.CommandLine.Scan
import LibraryPaths.Proofs.Session.Innermost
import LibraryPaths.Proofs.Library.Appended
import LibraryPaths.Proofs.FileSystem.Cleaned
import LibraryPaths.Proofs.Library.Membership
import LibraryPaths.Proofs.Client.Ranges
import LibraryPaths.Proofs.Session.Admission
import LibraryPaths.Proofs.Session.Merged
import LibraryPaths.Proofs.Session.Seeds
import LibraryPaths.Proofs.Config.Documents
