import LineShell.Proofs.Execution.Run
import LineShell.Shell.Session

namespace LineShell.Shell

def commands (c : Context) (line : Text) : List Command :=
  (parse c line).commands.map (·.1)

def perform (w : World) (cs : List Command) (c : Context) : Run :=
  Run.all (Command.step w) cs { context := c }

lemma execute_of_parses {w : World} {c : Context} {line : Text}
    (h : (parse c line).fault = none) :
    (execute w c line).context = (perform w (commands c line) c).state.context ∧
    (execute w c line).calls = (perform w (commands c line) c).calls ∧
    (execute w c line).outcome = match (perform w (commands c line) c).fault with
      | some f => .error (.run f)
      | none => .ok (perform w (commands c line) c).state.result := by
  simp only [execute, h]
  exact ⟨rfl, rfl, rfl⟩

section

variable {w : World} {c : Context} {line : Text}

lemma execute_of_not_parses {f : ParseFault} (h : (parse c line).fault = some f) :
    execute w c line = ⟨c, [], (parseNotes c line).map .note, .error (.parse f)⟩ := by
  simp only [execute, h]

lemma execute_of_parse_fault {f : ParseFault} (h : (parse c line).fault = some f) :
    (execute w c line).outcome = .error (.parse f) :=
  congrArg LineRun.outcome (execute_of_not_parses h)

end

end LineShell.Shell
