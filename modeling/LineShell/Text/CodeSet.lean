namespace LineShell.Text

/-- A set of code points, as inclusive ranges in increasing order. -/
abbrev CodeSet := List (Nat × Nat)

def CodeSet.contains (s : CodeSet) (code : Nat) : Bool :=
  s.any fun r => r.1 ≤ code && code ≤ r.2

end LineShell.Text
