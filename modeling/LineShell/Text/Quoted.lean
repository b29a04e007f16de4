import LineShell.Text.Basic
import LineShell.Text.Visible

namespace LineShell.Text

def hexDigit (n : Nat) : Char :=
  if n < 10 then Char.ofNat (0x30 + n) else Char.ofNat (0x61 + (n - 10))

def hexDigits : (width : Nat) → Nat → Text
  | 0, _ => []
  | w + 1, n => hexDigits w (n / 16) ++ [hexDigit (n % 16)]

def quoteMark (t : Text) : Char :=
  if t.contains '\'' && !t.contains '"' then '"' else '\''

def escapeCode (code : Nat) : Text :=
  if code < 0x100 then ['\\', 'x'] ++ hexDigits 2 code
  else if code < 0x10000 then ['\\', 'u'] ++ hexDigits 4 code
  else ['\\', 'U'] ++ hexDigits 8 code

def escapeChar (mark c : Char) : Text :=
  if c = mark || c = '\\' then ['\\', c]
  else if c = '\t' then ['\\', 't']
  else if c = '\n' then ['\\', 'n']
  else if c = '\r' then ['\\', 'r']
  else if isVisible c then [c]
  else escapeCode c.toNat

def quoted (t : Text) : Text :=
  let mark := quoteMark t
  mark :: t.flatMap (escapeChar mark) ++ [mark]

def quotedList (ts : List Text) : Text :=
  '[' :: joinWith [',', ' '] (ts.map quoted) ++ [']']

end LineShell.Text
