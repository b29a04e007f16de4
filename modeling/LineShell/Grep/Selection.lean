import LineShell.Grep.Options
import LineShell.Pattern.Search

namespace LineShell.Grep

def separator : Text := ['-', '-']

/-- Selects from lines on. `owed` is the number of context lines still due, `written` says that a
line was selected before, and `gap` that one was left out since. -/
def selectFrom (hit : Text → Bool) (after owed : Nat) (written gap : Bool) : List Text → List Text
  | [] => []
  | line :: lines =>
    if hit line then
      let rest := line :: selectFrom hit after after true false lines
      if 0 < after && written && gap then separator :: rest else rest
    else match owed with
      | 0 => selectFrom hit after 0 written true lines
      | n + 1 => line :: selectFrom hit after n true false lines

def select (hit : Text → Bool) (after : Nat) (lines : List Text) : List Text :=
  selectFrom hit after 0 false false lines

def wholeWord (pattern : Text) : Text :=
  "\\b(?:".toList ++ pattern ++ ")\\b".toList

def Options.patternText (o : Options) (pattern : Text) : Text :=
  if o.word then wholeWord pattern else pattern

def compile (charNames : Text → Option Char) (o : Options) (pattern : Text) :
    Except Pattern.Rejection Pattern.Search :=
  Pattern.Search.ofText charNames o.ignoreCase (o.patternText pattern)

end LineShell.Grep
