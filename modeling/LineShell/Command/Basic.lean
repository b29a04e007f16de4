import LineShell.Text.Numeral
import LineShell.Text.Quoted

namespace LineShell

inductive Command where
  | simple (name : Text) (args : List Text)
  | assign (name value : Text)
  | flush
  deriving DecidableEq, Repr

namespace Command

def describe : Command → Text
  | .simple name args =>
    "CommandNode(Command(".toList ++ Text.quoted name ++ ", ".toList ++ Text.quotedList args ++
      "))".toList
  | .assign name value =>
    "Assignment(".toList ++ Text.quoted name ++ ", ".toList ++ Text.quoted value ++ ")".toList
  | .flush => "Flush()".toList

/-- The name and the value of a word of the form `NAME=value`. A name is made of word characters and
does not start with a decimal digit. -/
def assignment? (word : Text) : Option (Text × Text) :=
  let name := word.takeWhile Text.isWordChar
  match name.head?, word.dropWhile Text.isWordChar with
  | some c, '=' :: value => if Text.isDecimal c then none else some (name, value)
  | _, _ => none

end Command

end LineShell
