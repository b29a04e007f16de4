import LineShell.Text.Basic

/-! UTF-8. Encoding is a function of each character. Decoding never fails: it runs a machine over
the octets, and each longest stretch that could have begun a character and did not complete one
becomes one replacement character. -/

namespace LineShell.Text

abbrev Octets := List UInt8

def encodeChar (c : Char) : Octets :=
  let n := c.toNat
  if n < 0x80 then [n.toUInt8]
  else if n < 0x800 then [(0xC0 + n / 64).toUInt8, (0x80 + n % 64).toUInt8]
  else if n < 0x10000 then
    [(0xE0 + n / 4096).toUInt8, (0x80 + n / 64 % 64).toUInt8, (0x80 + n % 64).toUInt8]
  else
    [(0xF0 + n / 262144).toUInt8, (0x80 + n / 4096 % 64).toUInt8, (0x80 + n / 64 % 64).toUInt8,
      (0x80 + n % 64).toUInt8]

def encode (t : Text) : Octets :=
  t.flatMap encodeChar

def octetCount (t : Text) : Nat :=
  (encode t).length

/-- A character that has begun: the bits read so far, how many octets are missing, and the range the
next one has to lie in. The range is narrower after some first octets, which rules out overlong
forms, surrogates and code points past the last one. -/
structure Begun where
  bits : Nat
  missing : Nat
  low : Nat
  high : Nat

def replacement : Char := '�'

def beginChar (b : Nat) : Text × Option Begun :=
  if b < 0x80 then ([Char.ofNat b], none)
  else if b < 0xC2 then ([replacement], none)
  else if b < 0xE0 then ([], some ⟨b - 0xC0, 1, 0x80, 0xBF⟩)
  else if b < 0xF0 then
    ([], some ⟨b - 0xE0, 2, if b = 0xE0 then 0xA0 else 0x80, if b = 0xED then 0x9F else 0xBF⟩)
  else if b < 0xF5 then
    ([], some ⟨b - 0xF0, 3, if b = 0xF0 then 0x90 else 0x80, if b = 0xF4 then 0x8F else 0xBF⟩)
  else ([replacement], none)

def decodeStep : Option Begun → Nat → Text × Option Begun
  | none, b => beginChar b
  | some s, b =>
    if s.low ≤ b && b ≤ s.high then
      let bits := s.bits * 64 + (b - 0x80)
      if s.missing ≤ 1 then ([Char.ofNat bits], none)
      else ([], some ⟨bits, s.missing - 1, 0x80, 0xBF⟩)
    else
      let r := beginChar b
      (replacement :: r.1, r.2)

def decodeFrom : Option Begun → Octets → Text
  | none, [] => []
  | some _, [] => [replacement]
  | s, b :: bs =>
    let r := decodeStep s b.toNat
    r.1 ++ decodeFrom r.2 bs

def decode (bs : Octets) : Text :=
  decodeFrom none bs

end LineShell.Text
