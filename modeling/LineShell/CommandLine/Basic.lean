import LineShell.CommandLine.Options
import LineShell.Shell.Session

namespace LineShell.CommandLine

def programName : Text := "minish".toList

def usage : Text :=
  "usage: minish [-h] [-c LINE] [--cwd DIR] [--debug]\n".toList

def helpText : Text :=
  usage ++ "
A minimal shell with variables and pipes

options:
  -h, --help            show this help message and exit
  -c LINE, --command LINE
                        run LINE and exit instead of starting the interactive
                        shell
  --cwd DIR             working directory for commands (default: current
                        directory)
  --debug               log lexing, parsing and execution steps to stderr
".toList

inductive Report where
  | session (debug : Bool) (s : Session)
  | usage (stdout stderr : Text) (status : Nat)

namespace Report

def stdoutOf : Event → Text
  | .out t => t
  | .complaint _ | .remark _ => []

def stderrOf (debug : Bool) : Event → Text
  | .out _ => []
  | .complaint t => programName ++ ": ".toList ++ t ++ ['\n']
  | .remark (.note n) => if debug then n.render ++ ['\n'] else []
  | .remark (.aside t) | .remark (.warning t) => t

def stdout : Report → Text
  | .session _ s => s.events.flatMap stdoutOf
  | .usage out _ _ => out

def stderr : Report → Text
  | .session debug s => (Event.unrepeated [] s.events).flatMap (stderrOf debug)
  | .usage _ err _ => err

def calls : Report → List Call
  | .session _ s => s.calls
  | .usage .. => []

end Report

def Settings.context (w : World) (s : Settings) : Except Breakdown Context :=
  match s.cwd with
  | .absent => .ok (.start w.processCwd none)
  | .value dir => .ok (.start w.processCwd (some dir))
  | .dropped => .error .noPath

def Settings.line? (s : Settings) : Option Text :=
  match s.command with
  | .absent => none
  | .value line => some line
  | .dropped => some []

def start (w : World) (settings : Settings) (items : List TerminalItem) : Session :=
  match settings.context w, settings.line? with
  | .error b, _ => ⟨[], [], items.length, .breakdown b⟩
  | .ok c, none => Shell.run w c items
  | .ok c, some line => Shell.runLine w c line items.length

def run (w : World) (args : List Text) (items : List TerminalItem) : Report :=
  match verdict args with
  | .settings s => .session s.debug (start w s items)
  | .help => .usage helpText [] 0
  | .misuse m => .usage [] (usage ++ programName ++ ": error: ".toList ++ m.message ++ ['\n']) 2

end LineShell.CommandLine
