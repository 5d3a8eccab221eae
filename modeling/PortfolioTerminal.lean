import PortfolioTerminal.Codec.Output
import PortfolioTerminal.Codec.Section
import PortfolioTerminal.Codec.Session
import PortfolioTerminal.Codec.Settings
import PortfolioTerminal.Site
import PortfolioTerminal.View.Screen
import PortfolioTerminal.Proofs.Checked.Cycle
import PortfolioTerminal.Proofs.Checked.Prompt
import PortfolioTerminal.Proofs.Checked.Shell
import PortfolioTerminal.Proofs.Checked.Visit
import PortfolioTerminal.Proofs.Codec.Partial
import PortfolioTerminal.Proofs.Codec.RoundTrip
import PortfolioTerminal.Proofs.Command.Words
import PortfolioTerminal.Proofs.Evaluation
import PortfolioTerminal.Proofs.FileTree.ChangeDirectory
import PortfolioTerminal.Proofs.FileTree.Directories
import PortfolioTerminal.Proofs.FileTree.PreOrder
import PortfolioTerminal.Proofs.FileTree.Reading
import PortfolioTerminal.Proofs.FileTree.RoundTrip
import PortfolioTerminal.Proofs.Json.Text
import PortfolioTerminal.Proofs.Json.Token
import PortfolioTerminal.Proofs.Manual
import PortfolioTerminal.Proofs.Path
import PortfolioTerminal.Proofs.Path.Route
import PortfolioTerminal.Proofs.Path.Steps
import PortfolioTerminal.Proofs.Prompt.Pane
import PortfolioTerminal.Proofs.Session.Layout
import PortfolioTerminal.Proofs.Shell.Answers
import PortfolioTerminal.Proofs.Shell.Completion
import PortfolioTerminal.Proofs.Shell.Operations
import PortfolioTerminal.Proofs.Since
import PortfolioTerminal.Proofs.Suggestions
import PortfolioTerminal.Proofs.Site.Completions
import PortfolioTerminal.Proofs.Site.Event
import PortfolioTerminal.Proofs.Site.Loading
import PortfolioTerminal.Proofs.Site.Timers
import PortfolioTerminal.Proofs.Site.Tour
import PortfolioTerminal.Proofs.Text.Blank
import PortfolioTerminal.Proofs.Text.Folding
import PortfolioTerminal.Proofs.Text.Lowercase
import PortfolioTerminal.Proofs.View.ActiveTab
import PortfolioTerminal.Proofs.View.Listing
import PortfolioTerminal.Proofs.Visit.Delay
import PortfolioTerminal.Proofs.Visit.Flight
import PortfolioTerminal.Proofs.Visit.Identity
import PortfolioTerminal.Proofs.Visit.Logs
import PortfolioTerminal.Proofs.Visit.Navigation
import PortfolioTerminal.Proofs.Visit.Overlay
import PortfolioTerminal.Proofs.Visit.Recall
import PortfolioTerminal.Proofs.Visit.Tour
import PortfolioTerminal.Proofs.Visit.WorkingDirectory
import PortfolioTerminal.Proofs.Vocabulary
import PortfolioTerminal.Proofs.Prompt.Walk
import PortfolioTerminal.Proofs.Shell.Keys
import PortfolioTerminal.Proofs.Visit.Typing
import PortfolioTerminal.Proofs.Visit.Tab
