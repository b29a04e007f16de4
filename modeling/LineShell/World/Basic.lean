import LineShell.World.Tree
import LineShell.Breakdown
import LineShell.Text.Blank

namespace LineShell

/-- A program writes fixed octets, then its input if it copies, other octets to the standard error, and
ends with a status; or it cannot be started. -/
inductive Program where
  | runs (output errors : Text.Octets) (copies : Bool) (status : Int)
  | fails (f : SystemFault)
  deriving DecidableEq, Repr

structure Call where
  argv : List Text
  stdin : Text
  cwd : Text
  deriving DecidableEq, Repr

structure World where
  processCwd : Text
  home : Option Text
  users : List (Text × Text) := []
  tree : Tree := {}
  programs : List (Text × Program) := []
  charNames : Text → Option Char := fun _ => none
  /-- What is written to the standard error where a pattern is compiled, whether it has a flaw or
  not. -/
  warnings : Text → List Text := fun _ => []

namespace World

def textOf (bytes : Text.Octets) : Text :=
  Text.unifyNewlines (Text.decode bytes)

def underHome (home rest : Text) : Text :=
  match Text.dropEnd (· = '/') home ++ rest with
  | [] => ['/']
  | p => p

def expandHome (w : World) (path : Text) : Except Breakdown Text :=
  match path with
  | '~' :: tail =>
    let user := tail.takeWhile (· ≠ '/')
    let rest := tail.dropWhile (· ≠ '/')
    if user.contains '\x00' then .error .nullByte
    else match if user.isEmpty then w.home else w.users.lookup user with
      | some home => .ok (underHome home rest)
      | none => .ok path
  | _ => .ok path

def resolve (w : World) (cwd path : Text) : Except Breakdown Text :=
  (w.expandHome path).map (Path.join cwd)

def perform (w : World) (call : Call) : Except LookupFault (Text × Int) := do
  match ← w.tree.lookup call.cwd with
  | .file _ => throw (.system .notDirectory)
  | .directory =>
    match call.argv.head?.bind fun name => w.programs.lookup name with
    | none => throw (.system .noEntry)
    | some (.fails f) => throw (.system f)
    | some (.runs output _ copies status) =>
      let input := if copies then Text.encode call.stdin else []
      return (textOf (output ++ input), status)

def errorsOf (w : World) (call : Call) : Text :=
  match call.argv.head?.bind fun name => w.programs.lookup name with
  | some (.runs _ errors _ _) => Text.decode errors
  | _ => []

end World

end LineShell
