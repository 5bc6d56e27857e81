import RegisterMachine.Main
import RegisterMachine.Proofs.Assembly.Meaning
import RegisterMachine.Proofs.Assembly.Recovery
import RegisterMachine.Proofs.Assembly.RoundTrip
import RegisterMachine.Proofs.Command.Checking
import RegisterMachine.Proofs.Command.ExitCode
import RegisterMachine.Proofs.Command.LineEnds
import RegisterMachine.Proofs.Command.Verbosity
import RegisterMachine.Proofs.Machine.Arithmetic
import RegisterMachine.Proofs.Machine.Determination
import RegisterMachine.Proofs.Machine.Endings
import RegisterMachine.Proofs.Machine.Factorial
import RegisterMachine.Proofs.Machine.ForwardJumps
import RegisterMachine.Proofs.Machine.Lifecycle
import RegisterMachine.Proofs.Machine.Loading
import RegisterMachine.Proofs.Machine.ProgramCounter
import RegisterMachine.Proofs.Machine.Relocation
import RegisterMachine.Proofs.Machine.Renaming
import RegisterMachine.Proofs.Source.LineWords
