import LineShell.Pattern.Reader
import LineShell.Text.Integer

namespace LineShell.Pattern

def isOctal (c : Char) : Bool :=
  '0' ≤ c && c ≤ '7'

def isHex (c : Char) : Bool :=
  c.isDigit || 'a' ≤ c && c ≤ 'f' || 'A' ≤ c && c ≤ 'F'

def hexValue (c : Char) : Nat :=
  if c.isDigit then c.toNat - 0x30
  else if 'a' ≤ c then c.toNat - 0x61 + 10
  else c.toNat - 0x41 + 10

def numeral (base : Nat) (value : Char → Nat) (t : Text) : Nat :=
  t.foldl (fun n c => base * n + value c) 0

def octalValue (t : Text) : Nat :=
  numeral 8 (fun c => c.toNat - 0x30) t

def controlCode? : Char → Option Nat
  | 'a' => some 0x07
  | 'f' => some 0x0C
  | 'n' => some 0x0A
  | 'r' => some 0x0D
  | 't' => some 0x09
  | 'v' => some 0x0B
  | '\\' => some 0x5C
  | _ => none

def category? : Char → Option Member
  | 'd' => some (.category .digit false)
  | 'D' => some (.category .digit true)
  | 's' => some (.category .space false)
  | 'S' => some (.category .space true)
  | 'w' => some (.category .word false)
  | 'W' => some (.category .word true)
  | _ => none

def anchor? : Char → Option Anchor
  | 'A' => some .textStart
  | 'b' => some .boundary
  | 'B' => some .interior
  | 'Z' => some .textStop
  | _ => none

namespace Reading

def hexEscape (c : Char) (n : Nat) : Reading Nat := do
  let ds ← takeWhile isHex n
  let text := '\\' :: c :: ds
  if ds.length ≠ n then fail (.incompleteEscape text) text.length
  let code := numeral 16 hexValue ds
  if code > 0x10FFFF then fail (.badEscape text) text.length
  return code

def namedCode (name : Text) : Reading Nat := do
  match (← get).charNames name with
  | some c => return c.toNat
  | none => fail (.undefinedCharacter name) (name.length + 4)

def namedEscape : Reading Nat := do
  unless ← accept '\x7b' do fail .missingBrace 0
  namedCode (← takeUntil '\x7d' .character)

def octalEscape (ds : Text) : Reading Nat := do
  let code := octalValue ds
  if code > 0o377 then fail (.octalRange ('\\' :: ds)) (ds.length + 1)
  return code

def codeEscape (c : Char) : Reading Nat := do
  if c = 'x' then hexEscape c 2
  else if c = 'u' then hexEscape c 4
  else if c = 'U' then hexEscape c 8
  else if c = 'N' then namedEscape
  else if c.isAlphanum then fail (.badEscape ['\\', c]) 2
  else return c.toNat

def setEscape (c : Char) : Reading Member := do
  match controlCode? c, category? c with
  | some code, _ => return .code code
  | none, some m => return m
  | none, none =>
    if c = 'b' then return .code 0x08
    else if isOctal c then
      let ds ← takeWhile isOctal 2
      return .code (← octalEscape (c :: ds))
    else return .code (← codeEscape c)

/-- A backslash and a digit that is not zero: three octal digits are a code point, else the number,
of at most two digits, is that of a group. -/
def digitEscape (mode : Mode) (c : Char) : Reading Node := do
  let second ← takeWhile Char.isDigit 1
  let third ←
    if isOctal c && second.any isOctal then takeWhile isOctal 1 else pure []
  if !third.isEmpty then
    return .char mode (.code (← octalEscape (c :: second ++ third)) false)
  let group := Text.asciiValue (c :: second)
  if group ≤ (← groupCount) then
    reference mode group ((← tell) - (second.length + 2))
  else fail (.noSuchGroup group) (second.length + 1)

def nodeEscape (mode : Mode) (c : Char) : Reading Node := do
  match anchor? c, category? c, controlCode? c with
  | some a, _, _ => return .anchor mode a
  | none, some m, _ => return .char mode (.set false [m])
  | none, none, some code => return .char mode (.code code false)
  | none, none, none =>
    if c = '0' then
      let ds ← takeWhile isOctal 2
      return .char mode (.code (octalValue ds) false)
    else if c.isDigit then digitEscape mode c
    else return .char mode (.code (← codeEscape c) false)

end Reading

end LineShell.Pattern
