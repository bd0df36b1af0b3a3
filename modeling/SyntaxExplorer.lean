import SyntaxExplorer.Explorer
import SyntaxExplorer.Logging.Filter
import SyntaxExplorer.Logging.LogFolder
import SyntaxExplorer.Proofs.Explorer.Failures
import SyntaxExplorer.Proofs.Explorer.Resumption
import SyntaxExplorer.Proofs.Explorer.Unavailability
import SyntaxExplorer.Proofs.Query.ErrorSpans
import SyntaxExplorer.Proofs.Query.FirstSeen
import SyntaxExplorer.Proofs.Session.Atomicity
import SyntaxExplorer.Proofs.Session.Commutation
import SyntaxExplorer.Proofs.Session.Following
import SyntaxExplorer.Proofs.Session.Highlighting
import SyntaxExplorer.Proofs.Session.IncrementalParsing
import SyntaxExplorer.Proofs.Session.Publication
import SyntaxExplorer.Proofs.Session.Replay
import SyntaxExplorer.Proofs.Session.SelectedSpans
import SyntaxExplorer.Proofs.Store.FileContents
import SyntaxExplorer.Proofs.Text.EditPositions
import SyntaxExplorer.Proofs.Text.Inverses
import SyntaxExplorer.Proofs.Text.StepwiseChanges
import SyntaxExplorer.Proofs.Tree.Blocks
import SyntaxExplorer.Proofs.Tree.ParentChains
import SyntaxExplorer.Proofs.Tree.Places
import SyntaxExplorer.Proofs.Tree.Preorder
import SyntaxExplorer.Proofs.View.LatestRefreshes
import SyntaxExplorer.Proofs.View.RoundTrips
import SyntaxExplorer.Registry.Builtin
