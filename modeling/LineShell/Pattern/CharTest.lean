import LineShell.Pattern.Basic
import LineShell.Text.Blank
import LineShell.Text.Lettercase
import LineShell.Text.Numeral

/-! When a character passes a test. Without regard to case, characters are compared in lower case,
and lower-case characters with the same upper case count as one. In a set, code points above the
basic plane are not folded: they are compared as they stand, and ranges that reach them also by the
upper case of the character. -/

namespace LineShell.Pattern

def basicPlaneEnd : Nat := 0xFFFF

def isAsciiWordCode (n : Nat) : Bool :=
  0x30 ≤ n && n ≤ 0x39 || 0x41 ≤ n && n ≤ 0x5A || 0x61 ≤ n && n ≤ 0x7A || n == 0x5F

namespace Category

def containsAscii (k : Category) (n : Nat) : Bool :=
  match k with
  | .digit => 0x30 ≤ n && n ≤ 0x39
  | .space => 0x09 ≤ n && n ≤ 0x0D || n == 0x20
  | .word => isAsciiWordCode n

def contains (k : Category) (ascii : Bool) (n : Nat) : Bool :=
  if ascii then k.containsAscii n
  else match k with
    | .digit => Text.isDecimal (Char.ofNat n)
    | .space => Text.isBlank (Char.ofNat n)
    | .word => Text.isWordChar (Char.ofNat n)

end Category

namespace Mode

def fold (m : Mode) (n : Nat) : Nat :=
  if m.ascii then Text.lowerAsciiCode n else Text.lowerCode n

def isCased (m : Mode) (n : Nat) : Bool :=
  if m.ascii then Text.isAsciiCased n else Text.isCased n

def variants (m : Mode) (n : Nat) : List Nat :=
  if m.ascii then [n] else Text.variantsOf n

def sources (m : Mode) (n : Nat) : List Nat :=
  let self := if m.fold n = n then [n] else []
  if m.ascii then if 0x61 ≤ n && n ≤ 0x7A then (n - 32) :: self else self
  else
    self ++ Text.lowering.filterMap fun r =>
      let k := ((n : Int) - r.shift).toNat
      if r.covers k then some k else none

end Mode

namespace Member

def contains (ascii : Bool) (n : Nat) : Member → Bool
  | .code k => n == k
  | .range a b => a ≤ n && n ≤ b
  | .category k negated => k.contains ascii n != negated

/-- Whether case matters to a member; it always may above the basic plane. -/
def isCased (m : Mode) : Member → Bool
  | .code k => m.isCased k || basicPlaneEnd < m.fold k
  | .range a b =>
    basicPlaneEnd < b ||
      if m.ascii then a ≤ 0x5A && 0x41 ≤ b || a ≤ 0x7A && 0x61 ≤ b
      else (Text.lowering ++ Text.raising).any fun r =>
        let k := r.first + (a - r.first + (r.step - 1)) / r.step * r.step
        k ≤ r.last && k ≤ b
  | .category .. => false

def containsFolded (m : Mode) (n : Nat) : Member → Bool
  | .code k =>
    if basicPlaneEnd < m.fold k then n == k else (m.variants (m.fold k)).contains n
  | .range a b =>
    ((m.variants n).any fun v => (m.sources v).any fun k => a ≤ k && k ≤ b && k ≤ basicPlaneEnd) ||
      basicPlaneEnd < b && (a ≤ n && n ≤ b || a ≤ Text.upperCode n && Text.upperCode n ≤ b)
  | .category k negated => k.contains m.ascii n != negated

end Member

namespace CharTest

def passes (m : Mode) (n : Nat) : CharTest → Bool
  | .any => m.dotAll || n != 0x0A
  | .code k negated =>
    (if m.ignoreCase && m.isCased k then (m.variants (m.fold k)).contains (m.fold n) else n == k)
      != negated
  | .set negated members =>
    (if m.ignoreCase && members.any (·.isCased m) then members.any (·.containsFolded m (m.fold n))
      else members.any (·.contains m.ascii n)) != negated

end CharTest

end LineShell.Pattern
