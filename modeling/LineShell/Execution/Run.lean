import LineShell.Builtin
import LineShell.Execution.Note
import LineShell.Execution.State

/-! Running commands one after the other. A run that stops early still tells how far it came: the
state before the command that stopped it, the programs called and the remarks made. -/

namespace LineShell

structure Step where
  calls : List Call := []
  remarks : List Remark := []
  outcome : Except Fault State

def Site.external (s : Site) (name : Text) (args : List Text) (pipe : Option Text) :
    List Call × Except Fault (Text × Int) :=
  if (name :: args).any (·.contains '\x00') then ([], .error (.breakdown .nullByte))
  else
    let call : Call := ⟨name :: args, pipe.getD [], s.cwd⟩
    ([call], (s.world.perform call).mapError fun
      | .nullByte => .breakdown .nullByte
      | .system f => .failure (.unstarted name f))

namespace State

def apply (s : State) : Outcome → State
  | .value pipe => s.withPipe pipe
  | .moved cwd => { s with context := { s.context with cwd := cwd }, pipe := none }

end State

namespace Command

def invoke (w : World) (name : Text) (args : List Text) (s : State) : Step :=
  let site : Site := ⟨w, s.context.cwd⟩
  match Builtin.ofName? name with
  | some b =>
    { remarks := (b.warnings w args).map .warning
      outcome := (b.run site args s.pipe).map s.apply }
  | none =>
    match site.external name args s.pipe with
    | (calls, .error f) => { calls := calls, outcome := .error f }
    | (calls, .ok (text, status)) =>
      { calls := calls
        remarks := calls.map (fun k => .aside (w.errorsOf k)) ++
          if status = 0 then [] else [.note (.exited name status)]
        outcome := .ok (s.withPipe (some text)) }

def step (w : World) (c : Command) (s : State) : Step :=
  let r : Step := match c with
    | .simple name args => invoke w name args s
    | .assign name value =>
      { outcome := .ok { s with context := s.context.set name value, pipe := none } }
    | .flush => { outcome := .ok s.flush }
  { r with remarks := .note (.executing c) :: r.remarks }

end Command

inductive Task where
  | command (c : Command)
  | emit (value : Option Text)
  | undefined
  deriving DecidableEq, Repr

def Task.step (w : World) (t : Task) (s : State) : Step :=
  match t with
  | .command c => c.step w s
  | .emit value => { outcome := .ok (s.withPipe value) }
  | .undefined => { outcome := .error (.breakdown .undefined) }

/-- How far a run came: the state reached, the calls and remarks made, and the number of commands
taken, the one that stopped the run included. -/
structure Run where
  state : State
  calls : List Call
  remarks : List Remark
  consumed : Nat
  fault : Option Fault

namespace Run

variable {α : Type}

def all (step : α → State → Step) : List α → State → Run
  | [], s => ⟨s, [], [], 0, none⟩
  | c :: cs, s =>
    let r := step c s
    match r.outcome with
    | .error f => ⟨s, r.calls, r.remarks, 1, some f⟩
    | .ok t =>
      let more := all step cs t
      ⟨more.state, r.calls ++ more.calls, r.remarks ++ more.remarks, more.consumed + 1,
        more.fault⟩

end Run

end LineShell
