import LineShell.Command.Basic

namespace LineShell

inductive Note where
  | expanded (line : Text)
  | parsed (c : Command)
  | parsedCount (n : Nat)
  | executing (c : Command)
  | exited (name : Text) (status : Int)
  deriving DecidableEq, Repr

namespace Note

def source : Note → Text
  | .expanded _ => "lexer".toList
  | .parsed _ => "parser".toList
  | .parsedCount _ => "shell".toList
  | .executing _ | .exited .. => "runner".toList

def message : Note → Text
  | .expanded line => "expanded line: ".toList ++ Text.quoted line
  | .parsed c => "parsed ".toList ++ c.describe
  | .parsedCount n => "parsed ".toList ++ Text.ofNat n ++ " commands".toList
  | .executing c => "executing ".toList ++ c.describe
  | .exited name status => name ++ " exited with status ".toList ++ Text.ofInt status

def render (n : Note) : Text :=
  "DEBUG ".toList ++ n.source ++ ": ".toList ++ n.message

end Note

/-- What is noted while a line is executed, and what programs and the compiler of patterns write to
the standard error in between. -/
inductive Remark where
  | note (n : Note)
  | aside (t : Text)
  | warning (t : Text)
  deriving DecidableEq, Repr

def Remark.warning? : Remark → Option Text
  | .warning t => some t
  | _ => none

end LineShell
