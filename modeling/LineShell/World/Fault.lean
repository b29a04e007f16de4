import LineShell.Text.Basic

namespace LineShell

inductive SystemFault where
  | noEntry
  | accessDenied
  | notPermitted
  | inputOutput
  | notDirectory
  | isDirectory
  | linkLoop
  | nameTooLong
  | execFormat
  | argumentsTooLong
  | other (text : Text)
  deriving DecidableEq, Repr

namespace SystemFault

def describe : SystemFault → Text
  | .noEntry => "No such file or directory".toList
  | .accessDenied => "Permission denied".toList
  | .notPermitted => "Operation not permitted".toList
  | .inputOutput => "Input/output error".toList
  | .notDirectory => "Not a directory".toList
  | .isDirectory => "Is a directory".toList
  | .linkLoop => "Too many levels of symbolic links".toList
  | .nameTooLong => "File name too long".toList
  | .execFormat => "Exec format error".toList
  | .argumentsTooLong => "Argument list too long".toList
  | .other t => t

def isRefusal (f : SystemFault) : Bool :=
  f == .accessDenied || f == .notPermitted

end SystemFault

inductive LookupFault where
  | nullByte
  | system (f : SystemFault)
  deriving DecidableEq, Repr

end LineShell
