import LineShell.Context
import LineShell.Text.Blank

namespace LineShell

/-- `pipe` is what the last command gave and the next one reads, `output` the text of the chains
that are closed. -/
structure State where
  context : Context
  pipe : Option Text := none
  output : Text := []
  deriving DecidableEq, Repr

namespace State

def withPipe (s : State) (pipe : Option Text) : State :=
  { s with pipe := pipe }

def tail (s : State) : Text :=
  (s.pipe.getD []).withFinalNewline

def flush (s : State) : State :=
  { s with pipe := none, output := s.output ++ s.tail }

def result (s : State) : Text :=
  s.output ++ s.tail

end State

end LineShell
