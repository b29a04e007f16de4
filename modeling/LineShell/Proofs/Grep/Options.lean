import LineShell.Grep.Options
import LineShell.Proofs.Outcome
import Mathlib.Tactic.SplitIfs

namespace LineShell.Grep

structure Count (value : Text) : Prop where
  numeral : Text.isAsciiNumeral value = true
  length : value.length ≤ Text.digitLimit

structure Oversized (value : Text) : Prop where
  numeral : Text.isAsciiNumeral value = true
  length : Text.digitLimit < value.length

lemma contextLength_of_count {value : Text} (h : Count value) :
    contextLength value = .ok (Text.asciiValue value) := by
  simp [contextLength, h.numeral, h.length]

lemma count_of_contextLength {value : Text} {n : Nat} (h : contextLength value = .ok n) :
    Count value := by
  unfold contextLength at h
  split_ifs at h with hn hl
  exact ⟨by simpa using hn, Nat.le_of_not_lt hl⟩

def Letters (cs : Text) : Prop :=
  cs ≠ [] ∧ ∀ c ∈ cs, c = 'i' ∨ c = 'w'

lemma forall_of_letters {cs : Text} {o o' : Options} (h : letters o cs = .ok o') :
    ∀ c ∈ cs, c = 'i' ∨ c = 'w' := by
  induction cs generalizing o with
  | nil => simp
  | cons c cs ih =>
    unfold letters at h
    split_ifs at h with hi hw
    · exact List.forall_mem_cons.mpr ⟨Or.inl hi, ih h⟩
    · exact List.forall_mem_cons.mpr ⟨Or.inr hw, ih h⟩

inductive OptionRun : List Text → Prop
  | nil : OptionRun []
  | letters {cs : Text} {rest : List Text} :
    Letters cs → OptionRun rest → OptionRun (('-' :: cs) :: rest)
  | apart {value : Text} {rest : List Text} :
    Count value → OptionRun rest → OptionRun (['-', 'A'] :: value :: rest)
  | joined {value : Text} {rest : List Text} :
    Count value → OptionRun rest → OptionRun (('-' :: 'A' :: value) :: rest)

lemma Count.ne_nil {value : Text} (h : Count value) : value ≠ [] := by
  rintro rfl
  simpa [Text.isAsciiNumeral] using h.numeral

lemma Oversized.ne_nil {value : Text} (h : Oversized value) : value ≠ [] := by
  rintro rfl
  simpa [Text.isAsciiNumeral] using h.numeral

section

variable {o : Options} {value : Text} {rest : List Text}

lemma parseFrom_apart : parseFrom o (['-', 'A'] :: value :: rest) =
    (contextLength value).bind fun n => parseFrom { o with after := n } rest := by
  rw [parseFrom]
  rfl

lemma parseFrom_joined (h : value ≠ []) : parseFrom o (('-' :: 'A' :: value) :: rest) =
    (contextLength value).bind fun n => parseFrom { o with after := n } rest := by
  obtain ⟨v, vs, rfl⟩ := List.exists_cons_of_ne_nil h
  rw [parseFrom.eq_def]
  rfl

lemma parseFrom_letters {cs : Text} (h : Letters cs) : parseFrom o (('-' :: cs) :: rest) =
    (letters o cs).bind fun o' => parseFrom o' rest := by
  obtain ⟨c, cs, rfl⟩ := List.exists_cons_of_ne_nil h.1
  rcases (List.forall_mem_cons.mp h.2).1 with rfl | rfl
  · rw [parseFrom.eq_def]
    rfl
  · rw [parseFrom.eq_def]
    rfl

end

structure Overflows (args : List Text) (value : Text) : Prop where
  oversized : Oversized value
  place : ∃ pre rest, OptionRun pre ∧
    (args = pre ++ ['-', 'A'] :: value :: rest ∨ args = pre ++ ('-' :: 'A' :: value) :: rest)

lemma Overflows.of_append {args : List Text} {value : Text} (pre : List Text)
    (hpre : ∀ run, OptionRun run → OptionRun (pre ++ run)) (h : Overflows args value) :
    Overflows (pre ++ args) value := by
  obtain ⟨hv, run, rest, hrun, hargs⟩ := h
  refine ⟨hv, pre ++ run, rest, hpre run hrun, ?_⟩
  rcases hargs with rfl | rfl
  · exact Or.inl (List.append_assoc ..).symm
  · exact Or.inr (List.append_assoc ..).symm

end LineShell.Grep
