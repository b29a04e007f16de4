import LineShell.Pattern.CharTest

/-! Matching by backtracking. A node is run with the rest of the match as a continuation, and the
first success counts: the order of the alternatives, longest first for greedy and shortest first for
lazy repetition, decides what groups hold, which back-references and conditions can tell. -/

namespace LineShell.Pattern

/-- A position in the text, with the marks set on the way: `2 * g` where group `g` was entered last,
`2 * g + 1` where it was left, the latest mark first. -/
structure Point where
  pos : Nat
  marks : List (Nat × Nat) := []
  deriving DecidableEq, Repr

namespace Point

def mark (p : Point) (key : Nat) : Point :=
  { p with marks := (key, p.pos) :: p.marks }

def group? (p : Point) (g : Nat) : Option (Nat × Nat) := do
  let start ← p.marks.lookup (2 * g)
  let stop ← p.marks.lookup (2 * g + 1)
  if start ≤ stop then some (start, stop) else none

end Point

abbrev Next := Point → Option Point

def wordAt (m : Mode) (text : Array Char) (i : Nat) : Bool :=
  text[i]?.any fun c => Category.word.contains m.ascii c.toNat

def newlineAt (text : Array Char) (i : Nat) : Bool :=
  text[i]? == some '\n'

def boundaryAt (m : Mode) (text : Array Char) (i : Nat) : Bool :=
  (0 < i && wordAt m text (i - 1)) != wordAt m text i

/-- An empty text has neither boundaries nor interior positions. -/
def Anchor.holds (m : Mode) (text : Array Char) (i : Nat) : Anchor → Bool
  | .textStart => i == 0
  | .textStop => i == text.size
  | .start => i == 0 || m.multiline && newlineAt text (i - 1)
  | .stop =>
    i == text.size || newlineAt text i && (m.multiline || i + 1 == text.size)
  | .boundary => 0 < text.size && boundaryAt m text i
  | .interior => 0 < text.size && !boundaryAt m text i

def repeatsAt (m : Mode) (text : Array Char) (start pos : Nat) : (length : Nat) → Bool
  | 0 => true
  | n + 1 =>
    match text[start]?, text[pos]? with
    | some a, some b =>
      (if m.ignoreCase then m.fold a.toNat == m.fold b.toNat else a == b)
        && repeatsAt m text (start + 1) (pos + 1) n
    | _, _ => false

/-- Repetition of `body`. After the least number of rounds another one is tried only if the last one
moved; `last` is where it started. The fuel is the number of rounds that can be needed. -/
def repeatGreedy (body : Next → Next) (least : Nat) (most : Option Nat) (k : Next) :
    (fuel count : Nat) → (last : Option Nat) → Next
  | 0, _, _, p => k p
  | fuel + 1, count, last, p =>
    if count < least then body (repeatGreedy body least most k fuel (count + 1) last) p
    else if most.all (count < ·) && last != some p.pos then
      match body (repeatGreedy body least most k fuel (count + 1) (some p.pos)) p with
      | some q => some q
      | none => k p
    else k p

def repeatLazy (body : Next → Next) (least : Nat) (most : Option Nat) (k : Next) :
    (fuel count : Nat) → (last : Option Nat) → Next
  | 0, _, _, p => k p
  | fuel + 1, count, last, p =>
    if count < least then body (repeatLazy body least most k fuel (count + 1) last) p
    else match k p with
      | some q => some q
      | none =>
        if most.all (count < ·) && last != some p.pos then
          body (repeatLazy body least most k fuel (count + 1) (some p.pos)) p
        else none

def repeatPossessive (body : Next → Next) (least : Nat) (most : Option Nat) (k : Next) :
    (fuel count : Nat) → (last : Option Nat) → Next
  | 0, _, _, p => k p
  | fuel + 1, count, last, p =>
    if count < least then
      match body some p with
      | some q => repeatPossessive body least most k fuel (count + 1) last q
      | none => none
    else if most.all (count < ·) && last != some p.pos then
      match body some p with
      | some q => repeatPossessive body least most k fuel (count + 1) (some p.pos) q
      | none => k p
    else k p

namespace Node

def run (text : Array Char) : Node → Next → Next
  | .empty, k, p => k p
  | .char m t, k, p =>
    match text[p.pos]? with
    | some c => if t.passes m c.toNat then k { p with pos := p.pos + 1 } else none
    | none => none
  | .anchor m a, k, p => if a.holds m text p.pos then k p else none
  | .backref m g _, k, p =>
    match p.group? g with
    | some (start, stop) =>
      if repeatsAt m text start p.pos (stop - start) then k { p with pos := p.pos + (stop - start) }
      else none
    | none => none
  | .seq a b, k, p => a.run text (b.run text k) p
  | .alt a b, k, p =>
    match a.run text k p with
    | some q => some q
    | none => b.run text k p
  | .capture g b, k, p => b.run text (fun q => k (q.mark (2 * g + 1))) (p.mark (2 * g))
  | .scoped b, k, p => b.run text k p
  | .atomic b, k, p =>
    match b.run text some p with
    | some q => k q
    | none => none
  | .look behind negated b, k, p =>
    let back := if behind then b.width.least else 0
    let found := if back ≤ p.pos then b.run text some { p with pos := p.pos - back } else none
    match found, negated with
    | some q, false => k { q with pos := p.pos }
    | none, true => k p
    | _, _ => none
  | .choose g yes no, k, p => if (p.group? g).isSome then yes.run text k p else no.run text k p
  | .rep greed least most b, k, p =>
    let fuel := least + (text.size - p.pos) + 2
    match greed with
    | .greedy => repeatGreedy (b.run text) least most k fuel 0 none p
    | .lazy => repeatLazy (b.run text) least most k fuel 0 none p
    | .possessive => repeatPossessive (b.run text) least most k fuel 0 none p

def matchesAt (n : Node) (text : Array Char) (i : Nat) : Bool :=
  (n.run text some ⟨i, []⟩).isSome

end Node

end LineShell.Pattern
