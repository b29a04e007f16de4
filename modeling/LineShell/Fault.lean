import LineShell.Command.Parse
import LineShell.Grep.Options
import LineShell.Pattern.Flaw
import LineShell.World.Fault

namespace LineShell

inductive Failure where
  | unreadable (command path : Text) (f : SystemFault)
  | noSuchDirectory (target : Text)
  | notADirectory (target : Text)
  | numericArgument
  | contextLength (value : Text)
  | invalidOption (c : Char)
  | missingPattern
  | invalidPattern (pattern : Text) (f : Pattern.Flaw)
  | unstarted (command : Text) (f : SystemFault)
  deriving DecidableEq, Repr

namespace Failure

def command : Failure → Text
  | .unreadable c _ _ | .unstarted c _ => c
  | .noSuchDirectory _ | .notADirectory _ => "cd".toList
  | .numericArgument => "exit".toList
  | .contextLength _ | .invalidOption _ | .missingPattern | .invalidPattern .. => "grep".toList

def reason : Failure → Text
  | .unreadable _ path f =>
    path ++ ": ".toList ++ if f.isRefusal then "Permission denied".toList else f.describe
  | .noSuchDirectory t => "no such file or directory: ".toList ++ t
  | .notADirectory t => "not a directory: ".toList ++ t
  | .numericArgument => "numeric argument required".toList
  | .contextLength v => v ++ ": invalid context length argument".toList
  | .invalidOption c => "invalid option -- '".toList ++ [c, '\'']
  | .missingPattern => "missing pattern".toList
  | .invalidPattern p f => "invalid pattern: ".toList ++ f.message p
  | .unstarted _ f =>
    if f = .noEntry then "command not found".toList
    else if f.isRefusal then "permission denied".toList
    else f.describe

def message (f : Failure) : Text :=
  f.command ++ ": ".toList ++ f.reason

end Failure

inductive Fault where
  | failure (f : Failure)
  | exit (status : Int)
  | breakdown (b : Breakdown)
  deriving DecidableEq, Repr

def Fault.message : Fault → Text
  | .failure f => f.message
  | .exit status => Text.ofInt status
  | .breakdown b => b.message

inductive LineFault where
  | parse (f : ParseFault)
  | run (f : Fault)
  deriving DecidableEq, Repr

def LineFault.message : LineFault → Text
  | .parse f => f.message
  | .run f => f.message

end LineShell
