import LineShell.Text.Basic
import LineShell.Text.CodeSet

namespace LineShell.Text

def blanks : CodeSet := [
  (0x09, 0x0D), (0x1C, 0x20), (0x85, 0x85), (0xA0, 0xA0), (0x1680, 0x1680), (0x2000, 0x200A),
  (0x2028, 0x2029), (0x202F, 0x202F), (0x205F, 0x205F), (0x3000, 0x3000)]

def isBlank (c : Char) : Bool :=
  blanks.contains c.toNat

def wordStarts (fresh : Bool) : Text → Nat
  | [] => 0
  | c :: cs => (if fresh && !isBlank c then 1 else 0) + wordStarts (isBlank c) cs

def wordCount (t : Text) : Nat :=
  wordStarts true t

def lineEnds : CodeSet := [(0x0A, 0x0D), (0x1C, 0x1E), (0x85, 0x85), (0x2028, 0x2029)]

def isLineEnd (c : Char) : Bool :=
  lineEnds.contains c.toNat

def splitLines : Text → List Text
  | [] => []
  | '\r' :: '\n' :: cs => [] :: splitLines cs
  | c :: cs =>
    if isLineEnd c then [] :: splitLines cs
    else match splitLines cs with
      | [] => [[c]]
      | l :: ls => (c :: l) :: ls

def withFinalNewline (t : Text) : Text :=
  match t.getLast? with
  | none => []
  | some c => if c = '\n' then t else t ++ ['\n']

def unifyNewlines : Text → Text
  | [] => []
  | '\r' :: '\n' :: cs => '\n' :: unifyNewlines cs
  | c :: cs => (if c = '\r' then '\n' else c) :: unifyNewlines cs

end LineShell.Text
