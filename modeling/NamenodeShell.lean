import NamenodeShell.Json.Printer
import NamenodeShell.Completion
import NamenodeShell.Conversation
import NamenodeShell.Invocation
import NamenodeShell.Logging
import NamenodeShell.Main
import NamenodeShell.Proofs.Session.Directories
import NamenodeShell.Proofs.Session.RoundTrip
import NamenodeShell.Proofs.Session.Safety
import NamenodeShell.Proofs.Disk.Lexical
import NamenodeShell.Proofs.Session.LocalTargets
import NamenodeShell.Proofs.Transfer.Download
import NamenodeShell.Proofs.Session.Routine
import NamenodeShell.Proofs.Session.LocalFiles
import NamenodeShell.Proofs.Transfer.Addition
import NamenodeShell.Proofs.Conversation.Greeting
import NamenodeShell.Proofs.Conversation.Opening
import NamenodeShell.Proofs.Conversation.Turns
import NamenodeShell.Proofs.Completion
import NamenodeShell.Proofs.Session.Success
import NamenodeShell.Proofs.Lease.Bound
import NamenodeShell.Proofs.Lease.Account
import NamenodeShell.Proofs.Lease.Recovery
import NamenodeShell.Proofs.Command.Grammar
import NamenodeShell.Proofs.Resolution
import NamenodeShell.Proofs.Session.Journeys
import NamenodeShell.Proofs.Session.RemoteTargets
import NamenodeShell.Proofs.Classification
import NamenodeShell.Proofs.Writing
import NamenodeShell.Proofs.Disk.Vacancy
import NamenodeShell.Proofs.Disk.Listing
import NamenodeShell.Proofs.Listing
import NamenodeShell.Proofs.Session.Listings
import NamenodeShell.Proofs.Decimal.Order
import NamenodeShell.Proofs.Settings.Merging
import NamenodeShell.Proofs.Settings.Range
import NamenodeShell.Proofs.Session.Downloads
import NamenodeShell.Proofs.Reader
import NamenodeShell.Proofs.Url
import NamenodeShell.Proofs.Session.Verbatim
