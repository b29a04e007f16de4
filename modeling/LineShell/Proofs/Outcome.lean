import Mathlib.Tactic.Lemma

namespace LineShell

variable {ε α β : Type}

lemma bind_eq_ok_iff {m : Except ε α} {f : α → Except ε β} {b : β} :
    m.bind f = .ok b ↔ ∃ a, m = .ok a ∧ f a = .ok b := by
  cases m with
  | error e => simp [Except.bind]
  | ok a => simp [Except.bind]

lemma map_eq_error_iff {m : Except ε α} {f : α → β} {e : ε} :
    m.map f = .error e ↔ m = .error e := by
  cases m with
  | error e' => simp [Except.map]
  | ok a => simp [Except.map]

lemma map_eq_ok_iff {m : Except ε α} {f : α → β} {b : β} :
    m.map f = .ok b ↔ ∃ a, m = .ok a ∧ f a = b := by
  cases m with
  | error e => simp [Except.map]
  | ok a => simp [Except.map]

lemma mapError_eq_ok_iff {ε' : Type} {m : Except ε α} {f : ε → ε'} {a : α} :
    m.mapError f = .ok a ↔ m = .ok a := by
  constructor
  · intro h
    cases m with
    | error e' => cases h
    | ok a' => rw [Except.ok.inj h]
  · rintro rfl
    rfl

lemma mapM_eq_ok_map {f : α → Except ε β} {g : α → β} {xs : List α}
    (h : ∀ x ∈ xs, f x = .ok (g x)) : xs.mapM f = .ok (xs.map g) := by
  induction xs with
  | nil => rfl
  | cons x xs ih =>
    obtain ⟨hx, hxs⟩ := List.forall_mem_cons.mp h
    rw [List.mapM_cons, hx, ih hxs]
    rfl

lemma mapM_map {γ : Type} (f : α → Except ε β) (g : β → γ) (xs : List α) :
    (xs.mapM fun x => (f x).map g) = (xs.mapM f).map (List.map g) := by
  induction xs with
  | nil => rfl
  | cons x xs ih =>
    rw [List.mapM_cons, List.mapM_cons, ih]
    cases f x with
    | error e => rfl
    | ok b => cases xs.mapM f <;> rfl

end LineShell
