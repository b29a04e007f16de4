import LineShell.Lookahead.Basic

namespace LineShell

@[ext]
structure Cursor {α : Type} (source : List (Option α)) where
  index : Nat
  index_le : index ≤ source.length

namespace Cursor

variable {α : Type} {source : List (Option α)}

def start (source : List (Option α)) : Cursor source :=
  ⟨0, Nat.zero_le _⟩

def passed (c : Cursor source) : List α :=
  (source.take c.index).filterMap id

def position (c : Cursor source) : Nat :=
  c.passed.length

def peek (c : Cursor source) : Option α :=
  source[c.index]?.join

def next (c : Cursor source) : Cursor source :=
  if h : c.index < source.length then ⟨c.index + 1, h⟩ else c

def run (c : Cursor source) : List α :=
  ((source.drop c.index).takeWhile Option.isSome).filterMap id

theorem index_add_length_run_le (c : Cursor source) : c.index + c.run.length ≤ source.length := by
  have hmap : c.run.length ≤ ((source.drop c.index).takeWhile Option.isSome).length :=
    List.length_filterMap_le _ _
  have htake : ((source.drop c.index).takeWhile Option.isSome).length ≤
      (source.drop c.index).length :=
    (List.takeWhile_sublist _).length_le
  have hle := c.index_le
  rw [List.length_drop] at htake
  omega

def drain (c : Cursor source) : Cursor source :=
  ⟨c.index + c.run.length, c.index_add_length_run_le⟩

def answer (c : Cursor source) : Request → Reply α × Cursor source
  | .peek => (.item c.peek, c)
  | .next => (.item c.peek, c.next)
  | .hasNext => (.flag c.peek.isSome, c)
  | .drain => (.items c.run, c.drain)

def answers (c : Cursor source) : List Request → List (Reply α × Nat)
  | [] => []
  | q :: qs =>
    let r := c.answer q
    (r.1, r.2.position) :: answers r.2 qs

end Cursor

end LineShell
