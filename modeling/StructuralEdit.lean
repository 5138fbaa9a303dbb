import StructuralEdit.Host.Recording
import StructuralEdit.Main
import StructuralEdit.Proofs.Command.Accepted
import StructuralEdit.Proofs.Evaluation.Rewriting
import StructuralEdit.Proofs.Walk.Regions
import StructuralEdit.Proofs.Evaluation.Safety
import StructuralEdit.Proofs.Evaluation.Calls
import StructuralEdit.Proofs.Evaluation.Locality
import StructuralEdit.Proofs.Session.Observed
import StructuralEdit.Proofs.Evaluation.Failures
import StructuralEdit.Proofs.Session.Atomicity
import StructuralEdit.Proofs.CommandLine.Saving
import StructuralEdit.Proofs.Evaluation.Steering
import StructuralEdit.Proofs.Walk.Backward
import StructuralEdit.Proofs.Grammar.Lexical
import StructuralEdit.Proofs.Grammar.Soundness
import StructuralEdit.Proofs.Grammar.Completeness
import StructuralEdit.Proofs.Pattern.Rounds
import StructuralEdit.Proofs.Host.Lines
import StructuralEdit.Proofs.Session.Accounts
import StructuralEdit.Proofs.Session.Interchange
import StructuralEdit.Proofs.Walk.Tiling
import StructuralEdit.Proofs.CommandLine.Interaction
import StructuralEdit.Proofs.CommandLine.WritingBack
import StructuralEdit.Proofs.Evaluation.Complement
import StructuralEdit.Proofs.Evaluation.Composition
import StructuralEdit.Proofs.Evaluation.Stopping
import StructuralEdit.Proofs.Pattern.Leftmost
import StructuralEdit.Proofs.Walk.Forward
import StructuralEdit.Proofs.Evaluation.Printing
import StructuralEdit.Proofs.Session.Scopes
import StructuralEdit.Proofs.Text.Rows
import StructuralEdit.Proofs.Walk.Dependence
import StructuralEdit.Proofs.Session.Output
import StructuralEdit.Proofs.Command.Correspondence
import StructuralEdit.Proofs.Command.Surroundings
import StructuralEdit.Proofs.Command.Answers
import StructuralEdit.Proofs.Session.Prompts
import StructuralEdit.Proofs.Walk.Lines
import StructuralEdit.Proofs.Session.Summary
import StructuralEdit.Proofs.Host.Stream
import StructuralEdit.Proofs.Session.Placement
import StructuralEdit.Proofs.Walk.Clamping
import StructuralEdit.Proofs.Evaluation.Recursion
