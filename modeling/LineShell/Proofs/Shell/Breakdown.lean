import LineShell.Proofs.Execution.Breakdown
import LineShell.Proofs.Pattern.Breakdown
import LineShell.Proofs.Shell.Line

namespace LineShell.Shell

structure Breaks (w : World) (c : Context) (line : Text) (b : Breakdown) : Prop where
  parses : (parse c line).fault = none
  reached : ∃ pre k post, commands c line = pre ++ k :: post ∧ (perform w pre c).fault = none ∧
    k.Breaks w (perform w pre c).state.context.cwd b

end LineShell.Shell
