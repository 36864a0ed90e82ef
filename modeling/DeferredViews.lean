import DeferredViews.Text.Utf8
import DeferredViews.Text.Word
import DeferredViews.Files.Tree
import DeferredViews.Json.Reader
import DeferredViews.Json.Writer
import DeferredViews.Yaml.Document
import DeferredViews.Template.Evaluate
import DeferredViews.View.Callback
import DeferredViews.View.Direct
import DeferredViews.Log.Loggers
import DeferredViews.Config.Default
import DeferredViews.Config.Load
import DeferredViews.CommandLine.Program
import DeferredViews.Main
import DeferredViews.Proofs.Completion
import DeferredViews.Proofs.Watch
import DeferredViews.Proofs.OnTheSpot
import DeferredViews.Proofs.Isolation
import DeferredViews.Proofs.Transparency
import DeferredViews.Proofs.Ends
import DeferredViews.Proofs.Lives
import DeferredViews.Proofs.Bindings
import DeferredViews.Proofs.Accounts
import DeferredViews.Proofs.Partials
import DeferredViews.Proofs.Precedence
import DeferredViews.Proofs.Records
import DeferredViews.Proofs.Registration
import DeferredViews.Proofs.Verbosity
import DeferredViews.Proofs.CallerOptions
import DeferredViews.Proofs.Directories
import DeferredViews.Proofs.UnreadNames
import DeferredViews.Proofs.Wrapping
import DeferredViews.Proofs.Delivery
import DeferredViews.Proofs.Reports
import DeferredViews.Proofs.DirectRuns
import DeferredViews.Proofs.Culprits
import DeferredViews.Proofs.References
import DeferredViews.Proofs.Encoding
import DeferredViews.Proofs.Routes
import DeferredViews.Proofs.FirstConfiguration
import DeferredViews.Proofs.Complaints
import DeferredViews.Proofs.Validation
import DeferredViews.Proofs.LayoutSearch
import DeferredViews.Proofs.Nearest
import DeferredViews.Proofs.ShortestDecimals
import DeferredViews.Proofs.WrittenNumbers
import DeferredViews.Proofs.WrittenValues
import DeferredViews.Proofs.LogLines
