import QuickLaunch.Main
import QuickLaunch.Proofs.Runner.Attempts
import QuickLaunch.Proofs.Search.Views
import QuickLaunch.Settings.Resident
import QuickLaunch.Text.Quoted
import QuickLaunch.Text.Search
import QuickLaunch.Proofs.Runner.Starts
import QuickLaunch.Proofs.Json.Escapes
import QuickLaunch.Proofs.Json.RoundTrip
import QuickLaunch.Proofs.Runner.Places
import QuickLaunch.Proofs.Config.Stored
import QuickLaunch.Proofs.Command.Prefixes
import QuickLaunch.Proofs.Command.Spelling
import QuickLaunch.Proofs.Runner.Sequence
import QuickLaunch.Proofs.Launcher.Runs
import QuickLaunch.Catalog.Kept
import QuickLaunch.Proofs.Launcher.Activation
import QuickLaunch.Proofs.Settings.Usable
import QuickLaunch.Proofs.Search.Parts
import QuickLaunch.Proofs.Catalog.Rebuilt
import QuickLaunch.Proofs.Files.Directories
import QuickLaunch.Proofs.Search.Histories
import QuickLaunch.Proofs.Config.Opened
import QuickLaunch.Proofs.Config.Register
import QuickLaunch.Proofs.Settings.Overlaid
import QuickLaunch.Proofs.Invocation.ReadOnly
import QuickLaunch.Proofs.Invocation.Searches
import QuickLaunch.Proofs.Search.Recovery
import QuickLaunch.Proofs.Launcher.Applied
import QuickLaunch.Proofs.Config.Cleaned
import QuickLaunch.Proofs.Config.Flaws
import QuickLaunch.Proofs.Invocation.Resolves
import QuickLaunch.Proofs.Shell.Endings
import QuickLaunch.Proofs.Shell.Quotations
import QuickLaunch.Proofs.Shell.Delivery
import QuickLaunch.Proofs.Catalog.Launched
import QuickLaunch.Proofs.Shell.LineWords
import QuickLaunch.Proofs.Runner.Predictions
import QuickLaunch.Proofs.Runner.Nesting
import QuickLaunch.Proofs.Search.Expressions
import QuickLaunch.Proofs.Search.Routes
import QuickLaunch.Proofs.Search.Filtering
import QuickLaunch.Proofs.Text.LowerLetters
import QuickLaunch.Proofs.Text.Lowered
import QuickLaunch.Proofs.Search.LetterCase
import QuickLaunch.Proofs.Search.Grammar
import QuickLaunch.Proofs.Document.Layers
import QuickLaunch.Proofs.Settings.FirstUse
import QuickLaunch.Proofs.Invocation.Printed
