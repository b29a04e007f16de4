import LineShell.Shell.Basic
import LineShell.Shell.Terminal

/-! An interactive session: commands are read and executed until one leaves the shell or the input
ends. Faults are reported and the session goes on; a breakdown ends it. -/

namespace LineShell

inductive Event where
  | out (t : Text)
  | complaint (t : Text)
  | remark (r : Remark)
  deriving DecidableEq, Repr

namespace Event

def warning? : Event → Option Text
  | .remark r => r.warning?
  | _ => none

def givenAfter (given : List Text) (events : List Event) : List Text :=
  (events.filterMap warning?).reverse ++ given

/-- A warning that was given before is not given again. -/
def unrepeated (given : List Text) : List Event → List Event
  | [] => []
  | e :: es =>
    let rest := unrepeated (givenAfter given [e]) es
    if e.warning?.any given.contains then rest else e :: rest

end Event

inductive Ending where
  | status (n : Int)
  | breakdown (b : Breakdown)
  deriving DecidableEq, Repr

structure Round where
  events : List Event
  calls : List Call
  next : Except Ending Context

structure Session where
  events : List Event
  calls : List Call
  unread : Nat
  ending : Ending
  deriving DecidableEq, Repr

namespace Session

def after (s : Session) (events : List Event) (calls : List Call) : Session :=
  { s with events := events ++ s.events, calls := calls ++ s.calls }

end Session

namespace Shell

def newline : Event := .out ['\n']

def round (w : World) (c : Context) : EntryEnd → Round
  | .ended => ⟨[newline], [], .error (.status 0)⟩
  | .interrupted => ⟨[newline], [], .ok c⟩
  | .command line =>
    let r := execute w c line
    let remarks := r.remarks.map .remark
    match r.outcome with
    | .ok output => ⟨remarks ++ [.out output], r.calls, .ok r.context⟩
    | .error (.run (.exit status)) => ⟨remarks, r.calls, .error (.status status)⟩
    | .error (.run (.breakdown b)) => ⟨remarks, r.calls, .error (.breakdown b)⟩
    | .error f => ⟨remarks ++ [.complaint f.message], r.calls, .ok r.context⟩

theorem ending_ne_ended_of_next {w : World} {c d : Context} {e : EntryEnd}
    (h : (round w c e).next = .ok d) : e ≠ .ended := by
  rintro rfl
  simp [round] at h

def run (w : World) (c : Context) (items : List TerminalItem) : Session :=
  let entry := Entry.read items
  let r := round w c entry.ending
  let events := entry.prompts.map .out ++ r.events
  match _h : r.next with
  | .error ending => ⟨events, r.calls, entry.rest.length, ending⟩
  | .ok d => (run w d entry.rest).after events r.calls
termination_by items.length
decreasing_by exact Entry.rest_length_lt (ending_ne_ended_of_next (by assumption))

def runLine (w : World) (c : Context) (line : Text) (unread : Nat) : Session :=
  let r := execute w c line
  let remarks := r.remarks.map .remark
  match r.outcome with
  | .ok output => ⟨remarks ++ [.out output], r.calls, unread, .status 0⟩
  | .error (.run (.exit status)) => ⟨remarks, r.calls, unread, .status status⟩
  | .error (.run (.breakdown b)) => ⟨remarks, r.calls, unread, .breakdown b⟩
  | .error f => ⟨remarks ++ [.complaint f.message], r.calls, unread, .status 1⟩

end Shell

end LineShell
