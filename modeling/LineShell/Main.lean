import LineShell.CommandLine.Basic

/-! The shell on a terminal. Its world is what the environment tells: the working directory and the
home directory, with no files in them and no programs. -/

namespace LineShell.CommandLine

def ofEnvironment (cwd home : Option String) : World :=
  let cwd := (cwd.map String.toList).getD ['/']
  let home := home.map String.toList
  { processCwd := cwd
    home := home
    tree := .ofPaths [] (cwd :: home.toList) }

def exitCode (status : Int) : UInt32 :=
  (status % 256).toNat.toUInt32

def printEvent (debug : Bool) (e : Event) : IO Unit := do
  IO.print (String.ofList (Report.stdoutOf e))
  IO.eprint (String.ofList (Report.stderrOf debug e))

def leave : Ending → IO UInt32
  | .status n => return exitCode n
  | .breakdown b => do
    IO.eprintln (String.ofList (programName ++ ": ".toList ++ b.message))
    return 1

partial def readEntry (input output : IO.FS.Stream) (shown : Nat) (items : List TerminalItem) :
    IO Entry := do
  let entry := Entry.read items
  output.putStr (String.ofList (entry.prompts.drop shown).flatten)
  output.flush
  if entry.ending ≠ .ended then return entry
  let line ← input.getLine
  if line.isEmpty then return entry
  let text := line.toList
  let text := if text.getLast? = some '\n' then text.dropLast else text
  readEntry input output entry.prompts.length (items ++ [some text])

partial def converse (w : World) (debug : Bool) (given : List Text) (c : Context) : IO UInt32 := do
  let entry ← readEntry (← IO.getStdin) (← IO.getStdout) 0 []
  let r := Shell.round w c entry.ending
  (Event.unrepeated given r.events).forM (printEvent debug)
  match r.next with
  | .ok d => converse w debug (Event.givenAfter given r.events) d
  | .error ending => leave ending

def finish (r : Report) : IO UInt32 := do
  match r with
  | .session debug s =>
    (Event.unrepeated [] s.events).forM (printEvent debug)
    leave s.ending
  | .usage out err status =>
    IO.print (String.ofList out)
    IO.eprint (String.ofList err)
    return exitCode status

end LineShell.CommandLine

open LineShell CommandLine in
def main (args : List String) : IO UInt32 := do
  let w := ofEnvironment (← IO.getEnv "PWD") (← IO.getEnv "HOME")
  let args := args.map String.toList
  match verdict args with
  | .settings s =>
    match s.context w, s.line? with
    | .ok c, none => converse w s.debug [] c
    | _, _ => finish (run w args [])
  | _ => finish (run w args [])
