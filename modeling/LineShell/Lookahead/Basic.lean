/-! A source that is read once, with one element of lookahead. Elements may be absent: an absent
element looks like the end, and reading goes on behind it. -/

namespace LineShell

inductive Request where
  | peek
  | next
  | hasNext
  | drain
  deriving DecidableEq, Repr

inductive Reply (α : Type) where
  | item (a : Option α)
  | flag (b : Bool)
  | items (as : List α)
  deriving DecidableEq, Repr

/-- `buffer` holds the element that was looked at and not yet taken; it is filled on demand.
`position` counts the elements taken that were not absent. -/
structure Lookahead (α : Type) where
  source : List (Option α)
  buffer : Option (Option α) := none
  position : Nat := 0

namespace Lookahead

variable {α : Type}

def peek (s : Lookahead α) : Option α × Lookahead α :=
  match s.buffer, s.source with
  | some item, _ => (item, s)
  | none, [] => (none, { s with buffer := some none })
  | none, item :: rest => (item, { s with source := rest, buffer := some item })

def next (s : Lookahead α) : Option α × Lookahead α :=
  match s.peek with
  | (none, t) => (none, { t with buffer := none })
  | (some a, t) => (some a, { t with buffer := none, position := t.position + 1 })

def hasNext (s : Lookahead α) : Bool × Lookahead α :=
  let r := s.peek
  (r.1.isSome, r.2)

def pending (s : Lookahead α) : Nat :=
  s.source.length + if (s.buffer.getD none).isSome then 1 else 0

theorem pending_next_lt {s t : Lookahead α} {a : α} (h : s.next = (some a, t)) :
    t.pending < s.pending := by
  obtain ⟨source, buffer, position⟩ := s
  cases buffer with
  | some item =>
    cases item with
    | none => simp [next, peek] at h
    | some b =>
      obtain ⟨-, rfl⟩ := Prod.mk.inj h
      simp [pending]
  | none =>
    cases source with
    | nil => simp [next, peek] at h
    | cons item rest =>
      cases item with
      | none => simp [next, peek] at h
      | some b =>
        obtain ⟨-, rfl⟩ := Prod.mk.inj h
        simp [pending]

def drain (s : Lookahead α) : List α × Lookahead α :=
  match _h : s.next with
  | (none, _) => ([], s.peek.2)
  | (some a, t) =>
    let r := drain t
    (a :: r.1, r.2)
termination_by s.pending
decreasing_by exact pending_next_lt (by assumption)

def answer (s : Lookahead α) : Request → Reply α × Lookahead α
  | .peek => let r := s.peek; (.item r.1, r.2)
  | .next => let r := s.next; (.item r.1, r.2)
  | .hasNext => let r := s.hasNext; (.flag r.1, r.2)
  | .drain => let r := s.drain; (.items r.1, r.2)

def answers (s : Lookahead α) : List Request → List (Reply α × Nat)
  | [] => []
  | q :: qs =>
    let r := s.answer q
    (r.1, r.2.position) :: answers r.2 qs

end Lookahead

end LineShell
