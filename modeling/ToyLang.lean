import ToyLang.Graph.Step
import ToyLang.Main
import ToyLang.Proofs.Arena
import ToyLang.Proofs.Faithfulness
import ToyLang.Proofs.Reparsing
import ToyLang.Proofs.Rooted
import ToyLang.Proofs.Validity
import ToyLang.Proofs.Writing
import ToyLang.Proofs.Rendering
import ToyLang.Proofs.Faults
import ToyLang.Proofs.Output
import ToyLang.Proofs.Places
import ToyLang.Proofs.FileScope
import ToyLang.Proofs.Counting
import ToyLang.Proofs.Halting
import ToyLang.Proofs.Storage
import ToyLang.Proofs.CommandLine
import ToyLang.Proofs.Branches
import ToyLang.Proofs.Labels
import ToyLang.Proofs.Keywords
import ToyLang.Proofs.Joining
import ToyLang.Proofs.Comments
import ToyLang.Proofs.Integers
import ToyLang.Proofs.Literals
import ToyLang.Proofs.Termination
