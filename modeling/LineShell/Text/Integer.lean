import LineShell.Text.Blank
import LineShell.Text.Numeral

/-! Integers as people write them: blanks around, one sign, digits of any script, single underscores
between digits. A numeral may not be longer than `digitLimit`. -/

namespace LineShell.Text

def digitLimit : Nat := 4300

def isNumberMargin (c : Char) : Bool :=
  if c.toNat < 0x80 then c == ' ' || 0x09 ≤ c.toNat && c.toNat ≤ 0x0D else isBlank c

def digitValues (afterDigit : Bool) : Text → Option (List Nat)
  | [] => if afterDigit then some [] else none
  | c :: cs =>
    if c = '_' then if afterDigit then digitValues false cs else none
    else do
      let d ← decimalValue? c
      let ds ← digitValues true cs
      return d :: ds

def ofDigits (ds : List Nat) : Nat :=
  ds.foldl (fun n d => 10 * n + d) 0

def readNatural? (t : Text) : Option Nat := do
  let ds ← digitValues false t
  if ds.length > digitLimit then none else some (ofDigits ds)

def readInteger? (t : Text) : Option Int :=
  match dropEnd isNumberMargin (t.dropWhile isNumberMargin) with
  | '+' :: ds => (readNatural? ds).map Int.ofNat
  | '-' :: ds => (readNatural? ds).map fun n => -Int.ofNat n
  | ds => (readNatural? ds).map Int.ofNat

def isAsciiNumeral (t : Text) : Bool :=
  !t.isEmpty && t.all Char.isDigit

def asciiValue (t : Text) : Nat :=
  ofDigits (t.map fun c => c.toNat - 0x30)

end LineShell.Text
