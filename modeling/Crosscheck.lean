import Crosscheck.Evaluation.Service
import Crosscheck.CommandLine.Program
import Crosscheck.Main
import Crosscheck.Proofs.Grammar.Derivation
import Crosscheck.Proofs.Campaign.Seeded
import Crosscheck.Proofs.Campaign.Gate
import Crosscheck.Proofs.Generation.Image
import Crosscheck.Proofs.CommandLine.ExitStatus
import Crosscheck.Proofs.Generation.Batches
import Crosscheck.Proofs.Generation.Arity
import Crosscheck.Proofs.Generation.Size
import Crosscheck.Proofs.Grammar.Detection
import Crosscheck.Proofs.Expression.Nesting
import Crosscheck.Proofs.Generation.Extension
import Crosscheck.Proofs.Grammar.Rejection
import Crosscheck.Proofs.Grammar.Separation
import Crosscheck.Proofs.Evaluation.ProcessOutput
import Crosscheck.Proofs.CommandLine.Overlay
import Crosscheck.Proofs.Evaluation.FailedStatus
import Crosscheck.Proofs.Grammar.FaultyCalls
import Crosscheck.Proofs.Campaign.Exchange
