import Rpn.Assembly.Reader
import Rpn.Evaluation
import Rpn.Machine.Run
import Rpn.Main
import Rpn.Proofs.Numeral
import Rpn.Workspace
import Rpn.Proofs.Token.Shape
import Rpn.Proofs.Token.Split
import Rpn.Proofs.Token.Separation
import Rpn.Proofs.Token.Composition
import Rpn.Proofs.Token.Progress
import Rpn.Proofs.Options.Groups
import Rpn.Proofs.Options.Calls
import Rpn.Proofs.Options.Settings
import Rpn.Proofs.Expression.Reading
import Rpn.Proofs.Expression.Grammar
import Rpn.Proofs.Expression.Precedence
import Rpn.Proofs.Expression.Spelling
import Rpn.Proofs.Compilation
import Rpn.Proofs.Building
import Rpn.Proofs.Respelling
import Rpn.Proofs.Session
import Rpn.Proofs.Shell.Quoting
import Rpn.Proofs.Shell.Verbatim
import Rpn.Proofs.Job.Commands
import Rpn.Proofs.Job.Events
import Rpn.Proofs.Job.Courses
import Rpn.Proofs.Job.Order
import Rpn.Proofs.Job.Cleanup
import Rpn.Proofs.Assembly.RoundTrip
import Rpn.Proofs.Codegen.Faults
import Rpn.Proofs.Codegen.Names
import Rpn.Proofs.Codegen.Namespace
import Rpn.Proofs.Codegen.Determinacy
import Rpn.Proofs.Listing
import Rpn.Proofs.Machine.Steps
import Rpn.Proofs.Machine.Simulation
import Rpn.Proofs.Machine.Fragments
import Rpn.Proofs.Machine.Blocks
import Rpn.Proofs.Machine.Loops
import Rpn.Proofs.Machine.Program
import Rpn.Proofs.Machine.Ending
import Rpn.Proofs.Machine.Correctness
import Rpn.Proofs.Machine.Levels
import Rpn.Proofs.Machine.Walks
import Rpn.Proofs.Machine.BlockLevels
import Rpn.Proofs.Machine.Discipline
import Rpn.Proofs.Machine.Exits
import Rpn.Proofs.Machine.Exactness
