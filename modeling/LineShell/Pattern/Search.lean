import LineShell.Pattern.Match
import LineShell.Pattern.Parse

/-! Searching for a pattern. A pattern that was read is checked first. If it starts with a character
set, positions are passed over where the character is not in that set, and there the set is read in
the alphabet of the whole pattern, whatever alphabet was chosen inside of it. -/

namespace LineShell.Pattern

def lookbehindLimit : Nat := 2147483648

namespace Node

def flaw? (template : Bool) : Node → Option Cause
  | .empty | .char .. | .anchor .. | .backref .. => none
  | .seq a b | .alt a b | .choose _ a b => (a.flaw? template).or (b.flaw? template)
  | .capture _ b | .scoped b | .atomic b => b.flaw? template
  | .look behind _ b =>
    if behind && b.width.least ≠ b.width.most then some .lookbehindWidth else b.flaw? template
  | .rep greed _ _ b => if template then some (.repeatInTemplate greed) else b.flaw? template

def overreaches : Node → Bool
  | .empty | .char .. | .anchor .. | .backref .. => false
  | .seq a b | .alt a b | .choose _ a b => a.overreaches || b.overreaches
  | .capture _ b | .scoped b | .atomic b | .rep _ _ _ b => b.overreaches
  | .look behind _ b => behind && lookbehindLimit ≤ b.width.least || b.overreaches

def lead? : Node → Option CharTest
  | .char m (.set negated members) =>
    if m.ignoreCase && members.any (fun
      | .code k => m.isCased k
      | member => member.isCased m) then none
    else some (.set negated members)
  | .seq a _ => a.lead?
  | .capture _ b | .scoped b => b.lead?
  | _ => none

end Node

/-- A pattern to search for: `lead` is what the first character of a match has to pass, in the
alphabet that `ascii` chooses. -/
structure Search where
  node : Node
  lead : Option CharTest
  ascii : Bool
  deriving DecidableEq, Repr

namespace Search

def ofText (charNames : Text → Option Char) (ignoreCase : Bool) (t : Text) :
    Except Rejection Search := do
  let r : Reader :=
    { tokens := Token.ofText t
      flags := if ignoreCase then [.ignoreCase] else []
      charNames := charNames }
  let (n, r) ← Reading.pattern.run r
  match n.flaw? (r.flags.contains .template) with
  | some cause => throw (.flaw ⟨cause, none⟩)
  | none =>
    if n.overreaches then throw (.breakdown .lookbehindReach)
    return ⟨n, n.lead?, r.flags.contains .ascii⟩

def admits (s : Search) (text : Array Char) (i : Nat) : Bool :=
  s.lead.all fun test => text[i]?.any fun c => test.passes { ascii := s.ascii } c.toNat

def finds (s : Search) (t : Text) : Bool :=
  let text := t.toArray
  (List.range (text.size + 1)).any fun i => s.admits text i && s.node.matchesAt text i

end Search

end LineShell.Pattern
