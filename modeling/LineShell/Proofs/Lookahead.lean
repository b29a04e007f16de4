import LineShell.Lookahead.Cursor
import Mathlib.Data.List.TakeDrop
import Mathlib.Tactic.Lemma

/-! A source with lookahead answers every sequence of requests as a plain cursor does. A state of it
stands for a cursor in one of two ways: with an empty buffer, or with what is at the cursor looked
at. An absent element in the last place and the end leave the same buffer and the same empty source
behind, so this is a relation: the state alone does not give the cursor. -/

namespace LineShell

namespace Cursor

variable {α : Type} {source : List (Option α)}

lemma lt_or_end (c : Cursor source) : c.index < source.length ∨ c.index = source.length :=
  Nat.lt_or_eq_of_le c.index_le

lemma index_next {c : Cursor source} (h : c.index < source.length) :
    c.next.index = c.index + 1 :=
  congrArg index (dif_pos h)

lemma next_of_end {c : Cursor source} (h : c.index = source.length) : c.next = c :=
  dif_neg (by omega)

lemma peek_of_end {c : Cursor source} (h : c.index = source.length) : c.peek = none := by
  simp [peek, h]

lemma peek_eq_head_drop (c : Cursor source) : c.peek = (source.drop c.index).head?.join := by
  rw [peek, List.head?_drop]

lemma index_lt_of_peek_eq_some {c : Cursor source} {a : α} (h : c.peek = some a) :
    c.index < source.length := by
  obtain hlt | hend := c.lt_or_end
  · exact hlt
  · rw [peek_of_end hend] at h
    cases h

lemma take_index_next (c : Cursor source) :
    source.take c.next.index = source.take (c.index + 1) := by
  obtain hlt | hend := c.lt_or_end
  · rw [index_next hlt]
  · rw [next_of_end hend, List.take_of_length_le (by omega), List.take_of_length_le (by omega)]

lemma drop_index_next (c : Cursor source) :
    source.drop c.next.index = (source.drop c.index).tail := by
  rw [List.tail_drop]
  obtain hlt | hend := c.lt_or_end
  · rw [index_next hlt]
  · rw [next_of_end hend, List.drop_eq_nil_of_le (by omega), List.drop_eq_nil_of_le (by omega)]

lemma passed_next (c : Cursor source) : c.next.passed = c.passed ++ c.peek.toList := by
  rw [passed, take_index_next, List.take_add_one, List.filterMap_append, peek]
  apply congrArg (c.passed ++ ·)
  rcases source[c.index]? with _ | _ | a <;> rfl

lemma run_of_peek_eq_none {c : Cursor source} (h : c.peek = none) : c.run = [] := by
  rw [peek_eq_head_drop] at h
  rw [run]
  rcases hd : source.drop c.index with _ | ⟨_ | a, rest⟩
  · rfl
  · rfl
  · rw [hd] at h
    cases h

lemma drop_of_peek_eq_some {c : Cursor source} {a : α} (h : c.peek = some a) :
    source.drop c.index = some a :: source.drop c.next.index := by
  rw [peek_eq_head_drop, Option.join_eq_some_iff] at h
  obtain ⟨rest, hd⟩ := List.head?_eq_some_iff.mp h
  rw [drop_index_next, hd, List.tail_cons]

lemma run_of_peek_eq_some {c : Cursor source} {a : α} (h : c.peek = some a) :
    c.run = a :: c.next.run := by
  rw [run, drop_of_peek_eq_some h]
  rfl

lemma index_drain (c : Cursor source) : c.drain.index = c.index + c.run.length :=
  rfl

lemma drain_of_peek_eq_none {c : Cursor source} (h : c.peek = none) : c.drain = c := by
  ext
  rw [index_drain, run_of_peek_eq_none h, List.length_nil, Nat.add_zero]

lemma drain_of_peek_eq_some {c : Cursor source} {a : α} (h : c.peek = some a) :
    c.drain = c.next.drain := by
  ext
  rw [index_drain, index_drain, run_of_peek_eq_some h, index_next (index_lt_of_peek_eq_some h),
    List.length_cons]
  omega

lemma drainInduction {motive : Cursor source → Prop}
    (stop : ∀ c : Cursor source, c.peek = none → motive c)
    (move : ∀ (c : Cursor source) (a : α), c.peek = some a → motive c.next → motive c)
    (c : Cursor source) : motive c := by
  induction hn : source.length - c.index generalizing c with
  | zero =>
    have hle := c.index_le
    exact stop c (peek_of_end (by omega))
  | succ n ih =>
    cases h : c.peek with
    | none => exact stop c h
    | some a =>
      apply move c a h
      apply ih
      rw [index_next (index_lt_of_peek_eq_some h)]
      omega

lemma passed_drain (c : Cursor source) : c.drain.passed = c.passed ++ c.run := by
  induction c using drainInduction with
  | stop c hc => rw [drain_of_peek_eq_none hc, run_of_peek_eq_none hc, List.append_nil]
  | move c a hc ih =>
    rw [drain_of_peek_eq_some hc, ih, run_of_peek_eq_some hc, passed_next, hc, List.append_assoc]
    rfl

def unread (c : Cursor source) : Lookahead α :=
  ⟨source.drop c.index, none, c.position⟩

def ahead (c : Cursor source) : Lookahead α :=
  ⟨(source.drop c.index).tail, some c.peek, c.position⟩

end Cursor

namespace Lookahead

variable {α : Type} {source : List (Option α)} {s : Lookahead α} {c : Cursor source}

inductive At : Lookahead α → Cursor source → Prop
  | unread (c : Cursor source) : At c.unread c
  | ahead (c : Cursor source) : At c.ahead c

lemma At.start (source : List (Option α)) : At { source } (Cursor.start source) :=
  .unread (Cursor.start source)

lemma At.position_eq (h : s.At c) : s.position = c.position := by
  cases h <;> rfl

lemma At.peek_eq (h : s.At c) : s.peek = (c.peek, c.ahead) := by
  cases h with
  | ahead => rfl
  | unread =>
    rw [Cursor.ahead, Cursor.peek_eq_head_drop, Cursor.unread, peek]
    rcases source.drop c.index with _ | ⟨item, rest⟩ <;> rfl

lemma next_eq_peek (s : Lookahead α) :
    s.next = (s.peek.1, ⟨s.peek.2.source, none, s.peek.2.position + s.peek.1.toList.length⟩) := by
  rw [next]
  rcases s.peek with ⟨_ | a, t⟩ <;> rfl

lemma At.next_eq (h : s.At c) : s.next = (c.peek, c.next.unread) := by
  rw [next_eq_peek, h.peek_eq, Cursor.unread, Cursor.position, Cursor.passed_next,
    List.length_append, Cursor.drop_index_next]
  rfl

lemma At.hasNext_eq (h : s.At c) : s.hasNext = (c.peek.isSome, c.ahead) := by
  rw [hasNext, h.peek_eq]

lemma drain_of_next_eq_none {t : Lookahead α} (h : s.next = (none, t)) :
    s.drain = ([], s.peek.2) := by
  rw [drain]
  split
  case h_1 => rfl
  case h_2 hn =>
    rw [h] at hn
    cases hn

lemma drain_of_next_eq_some {t : Lookahead α} {a : α} (h : s.next = (some a, t)) :
    s.drain = (a :: t.drain.1, t.drain.2) := by
  rw [drain]
  split
  case h_1 hn =>
    rw [h] at hn
    cases hn
  case h_2 hn =>
    rw [h] at hn
    cases hn
    rfl

lemma At.drain_eq (h : s.At c) : s.drain = (c.run, c.drain.ahead) := by
  induction c using Cursor.drainInduction generalizing s with
  | stop c hc =>
    have hn : s.next = (none, c.next.unread) := by rw [h.next_eq, hc]
    rw [drain_of_next_eq_none hn, h.peek_eq, Cursor.run_of_peek_eq_none hc,
      Cursor.drain_of_peek_eq_none hc]
  | move c a hc ih =>
    have hn : s.next = (some a, c.next.unread) := by rw [h.next_eq, hc]
    rw [drain_of_next_eq_some hn, ih (.unread c.next), Cursor.run_of_peek_eq_some hc,
      Cursor.drain_of_peek_eq_some hc]

lemma At.answer_eq (h : s.At c) (q : Request) :
    (s.answer q).1 = (c.answer q).1 ∧ (s.answer q).2.At (c.answer q).2 := by
  cases q with
  | peek =>
    rw [answer, h.peek_eq]
    exact ⟨rfl, .ahead c⟩
  | next =>
    rw [answer, h.next_eq]
    exact ⟨rfl, .unread c.next⟩
  | hasNext =>
    rw [answer, h.hasNext_eq]
    exact ⟨rfl, .ahead c⟩
  | drain =>
    rw [answer, h.drain_eq]
    exact ⟨rfl, .ahead c.drain⟩

lemma At.answers_eq (h : s.At c) (qs : List Request) : s.answers qs = c.answers qs := by
  induction qs generalizing s c with
  | nil => rfl
  | cons q qs ih =>
    obtain ⟨hr, hs⟩ := h.answer_eq q
    rw [answers, Cursor.answers, hr, hs.position_eq, ih hs]

def after (s : Lookahead α) (qs : List Request) : Lookahead α :=
  qs.foldl (fun t q => (t.answer q).2) s

end Lookahead

namespace Request

variable {α : Type}

def taken : Request → Reply α → List α
  | .next, .item a => a.toList
  | .drain, .items as => as
  | _, _ => []

def handedOut (qs : List Request) (replies : List (Reply α × Nat)) : List α :=
  (List.zipWith (fun q r => q.taken r.1) qs replies).flatten

def blank : Request → Reply α
  | .peek => .item none
  | .next => .item none
  | .hasNext => .flag false
  | .drain => .items []

end Request

namespace Cursor

variable {α : Type} {source : List (Option α)}

def after (c : Cursor source) (qs : List Request) : Cursor source :=
  qs.foldl (fun d q => (d.answer q).2) c

lemma passed_answer (c : Cursor source) (q : Request) :
    (c.answer q).2.passed = c.passed ++ q.taken (c.answer q).1 := by
  cases q with
  | peek => exact (List.append_nil _).symm
  | next => exact c.passed_next
  | hasNext => exact (List.append_nil _).symm
  | drain => exact c.passed_drain

lemma passed_after (c : Cursor source) (qs : List Request) :
    (c.after qs).passed = c.passed ++ Request.handedOut qs (c.answers qs) := by
  induction qs generalizing c with
  | nil => exact (List.append_nil _).symm
  | cons q qs ih =>
    calc ((c.answer q).2.after qs).passed
      _ = (c.answer q).2.passed ++ Request.handedOut qs ((c.answer q).2.answers qs) := ih _
      _ = c.passed ++ (q.taken (c.answer q).1 ++
            Request.handedOut qs ((c.answer q).2.answers qs)) := by
          rw [passed_answer, List.append_assoc]

lemma answer_of_end {c : Cursor source} (h : c.index = source.length) (q : Request) :
    c.answer q = (q.blank, c) := by
  have hp := peek_of_end h
  cases q with
  | peek => rw [answer, hp, Request.blank]
  | next => rw [answer, hp, next_of_end h, Request.blank]
  | hasNext => rw [answer, hp, Option.isSome_none, Request.blank]
  | drain => rw [answer, run_of_peek_eq_none hp, drain_of_peek_eq_none hp, Request.blank]

lemma answers_of_end {c : Cursor source} (h : c.index = source.length) (qs : List Request) :
    c.answers qs = qs.map fun q => (q.blank, c.position) := by
  induction qs with
  | nil => rfl
  | cons q qs ih => rw [answers, answer_of_end h, ih, List.map_cons]

section Present

variable {xs : List α} (c : Cursor (xs.map some))

lemma passed_of_present : c.passed = xs.take c.index := by
  rw [passed, ← List.map_take, List.filterMap_map]
  exact List.filterMap_some

lemma peek_of_present : c.peek = xs[c.index]? := by
  rw [peek, List.getElem?_map]
  cases xs[c.index]? <;> rfl

lemma isSome_peek_eq_false_iff : c.peek.isSome = false ↔ c.index = (xs.map some).length := by
  have hle := c.index_le
  rw [peek_of_present, Option.isSome_eq_false_iff, Option.isNone_iff_eq_none,
    List.getElem?_eq_none_iff]
  rw [List.length_map] at hle ⊢
  omega

lemma passed_eq_iff : c.passed = xs ↔ c.index = (xs.map some).length := by
  have hle := c.index_le
  rw [passed_of_present, List.take_eq_self_iff]
  rw [List.length_map] at hle ⊢
  omega

end Present

end Cursor

namespace Lookahead

variable {α : Type} {source : List (Option α)} {s : Lookahead α} {c : Cursor source}

lemma At.after (h : s.At c) (qs : List Request) : (s.after qs).At (c.after qs) := by
  induction qs generalizing s c with
  | nil => exact h
  | cons q qs ih => exact ih (h.answer_eq q).2

/-- A source with lookahead answers as a cursor on it. If no element of it is absent, then what is
handed out is always the beginning of it as far as the position says, and once there is no next
element all of it was handed out and every request from then on finds nothing. -/
theorem refines_cursor (α : Type) :
    (∀ (source : List (Option α)) (qs : List Request),
      answers { source } qs = (Cursor.start source).answers qs) ∧
    ∀ (xs : List α) (qs : List Request),
      let s : Lookahead α := { source := xs.map some }
      let t := s.after qs
      let handed := Request.handedOut qs (s.answers qs)
      handed <+: xs ∧ handed.length = t.position ∧
        (t.hasNext.1 = false ↔ handed = xs) ∧
        (t.hasNext.1 = false ↔
          ∀ more : List Request, t.answers more = more.map fun q => (q.blank, t.position)) := by
  refine ⟨fun source qs => (At.start source).answers_eq qs, ?_⟩
  intro xs qs s t handed
  let c := (Cursor.start (xs.map some)).after qs
  have hs : s.At (Cursor.start (xs.map some)) := .start _
  have ht : t.At c := hs.after qs
  have hpassed : handed = c.passed := by
    rw [Cursor.passed_after, ← hs.answers_eq]
    rfl
  have hend : t.hasNext.1 = false ↔ c.index = (xs.map some).length := by
    rw [ht.hasNext_eq, Cursor.isSome_peek_eq_false_iff]
  refine ⟨?_, ?_, ?_, ?_, ?_⟩
  · rw [hpassed, Cursor.passed_of_present]
    exact List.take_prefix _ _
  · rw [hpassed, ht.position_eq, Cursor.position]
  · rw [hend, hpassed, Cursor.passed_eq_iff]
  · intro h more
    rw [ht.answers_eq, ht.position_eq, Cursor.answers_of_end (hend.mp h)]
  · intro h
    have hone : (t.answer .hasNext).1 = .flag false :=
      (Prod.mk.inj (List.cons.inj (h [.hasNext])).1).1
    exact Reply.flag.inj hone

-- An absent element looks like the end, and there is an element behind it.
example : answers { source := [some 'a', none, some 'b'] } [.drain, .hasNext, .next, .peek, .drain] =
    [(.items ['a'], 1), (.flag false, 1), (.item none, 1), (.item (some 'b'), 1),
      (.items ['b'], 2)] := by
  cbv

end Lookahead

end LineShell
