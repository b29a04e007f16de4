import LineShell.Command.Parse
import LineShell.Execution.Run
import LineShell.Lexeme.Expansion

namespace LineShell

structure LineRun where
  context : Context
  calls : List Call
  remarks : List Remark
  outcome : Except LineFault Text

namespace Shell

def parse (c : Context) (line : Text) : Parse :=
  Lexeme.parse (line.tokens c.get?)

def parseNotes (c : Context) (line : Text) : List Note :=
  .expanded (line.expand c.get?) ::
    (((parse c line).commands.map (·.1)).filter (· ≠ .flush)).map .parsed

def execute (w : World) (c : Context) (line : Text) : LineRun :=
  let p := parse c line
  let notes := (parseNotes c line).map .note
  match p.fault with
  | some f => ⟨c, [], notes, .error (.parse f)⟩
  | none =>
    let commands := p.commands.map (·.1)
    let r := Run.all (Command.step w) commands { context := c }
    { context := r.state.context
      calls := r.calls
      remarks := notes ++ .note (.parsedCount commands.length) :: r.remarks
      outcome := match r.fault with
        | some f => .error (.run f)
        | none => .ok r.state.result }

end Shell

end LineShell
