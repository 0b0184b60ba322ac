import Stepwise.Logging.Setup
import Stepwise.Recipe.Batch
import Stepwise.Recipe.Tool
import Stepwise.Proofs.Environments
import Stepwise.Proofs.Leaving
import Stepwise.Proofs.Output
import Stepwise.Proofs.Parsing
import Stepwise.Proofs.Readiness
import Stepwise.Proofs.Sharing
import Stepwise.Proofs.Compiling
import Stepwise.Proofs.Accepting
import Stepwise.Proofs.HiddenAttributes
import Stepwise.Proofs.Threads
import Stepwise.Proofs.Rendering
import Stepwise.Proofs.Precedence
import Stepwise.Proofs.Snapshots
import Stepwise.Proofs.Components
import Stepwise.Proofs.VariableFiles
import Stepwise.Proofs.Literals
import Stepwise.Proofs.Augmenting
import Stepwise.Proofs.Sequencing
import Stepwise.Proofs.Accessors
import Stepwise.Proofs.Layering
import Stepwise.Proofs.Elements
import Stepwise.Proofs.Printing
import Stepwise.Proofs.Naming
import Stepwise.Proofs.Reporting
import Stepwise.Proofs.Batches
