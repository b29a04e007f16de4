import LineShell.Proofs.Lookahead
import LineShell.Main
import LineShell.Proofs.CommandLine.Debug
import LineShell.Proofs.Execution.Chain
import LineShell.Proofs.Lexeme.Fusion
import LineShell.Proofs.Lexeme.Interpolation
import LineShell.Proofs.Lexeme.Quoting
import LineShell.Proofs.Shell.Binding
import LineShell.Proofs.Shell.Breakdown
import LineShell.Proofs.Shell.Dialogue
import LineShell.Proofs.Shell.Effect
import LineShell.Proofs.Shell.Influence
import LineShell.Proofs.Shell.Sequence
import LineShell.Proofs.Grep.Excerpt
import LineShell.Proofs.Grep.Filter
import LineShell.Proofs.Grep.Label
import LineShell.Proofs.Grep.Named
import LineShell.Proofs.Grep.Grammar
import LineShell.Proofs.Path
import LineShell.Proofs.World.Walk
import LineShell.Proofs.Shell.Directory
import LineShell.Proofs.Command.Viable
import LineShell.Proofs.Execution.Transfer
