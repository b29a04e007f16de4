import LineShell.Proofs.Lexeme.Cut

namespace LineShell

namespace Scan

open Lexeme

lemma textFrom_cons_some {strict refsOnly : Bool} (n : Nat) {c : Char} {cs rest : Text}
    {l : Lexeme} (h : cut strict refsOnly c cs = some (l, rest)) :
    textFrom strict refsOnly n (c :: cs) =
      ⟨(l, n + l.text.length) :: (textFrom strict refsOnly (n + l.text.length) rest).lexemes,
        (textFrom strict refsOnly (n + l.text.length) rest).fault⟩ := by
  rw [textFrom]
  split
  · simp_all
  · rename_i l' rest' h'
    obtain ⟨rfl, rfl⟩ := Prod.mk.inj (Option.some.inj (h.symm.trans h'))
    rfl

lemma textFrom_cons_none {strict refsOnly : Bool} (n : Nat) {c : Char} {cs : Text}
    (h : cut strict refsOnly c cs = none) :
    textFrom strict refsOnly n (c :: cs) = ⟨[], some ⟨c, n⟩⟩ := by
  rw [textFrom]
  split
  · rfl
  · simp_all

lemma textFrom_munch {strict : Bool} {l : Lexeme} {rest : Text} (n : Nat)
    (h : Munch strict l rest) :
    textFrom strict false n (l.text ++ rest) =
      ⟨(l, n + l.text.length) :: (textFrom strict false (n + l.text.length) rest).lexemes,
        (textFrom strict false (n + l.text.length) rest).fault⟩ := by
  obtain ⟨c, cs, ht⟩ := List.exists_cons_of_ne_nil (l := l.text ++ rest) (by simp [h.text_ne_nil])
  rw [ht, textFrom_cons_some n (cut_eq_some_iff.mpr ⟨ht.symm, h⟩)]

lemma textFrom_of_munches {strict : Bool} {t : Text} {ls : List Lexeme}
    (h : Munches strict t ls) (n : Nat) : textFrom strict false n t = ⟨ends n ls, none⟩ := by
  induction h generalizing n with
  | nil => rw [textFrom]; rfl
  | cons hl _ ih =>
    rw [textFrom_munch n hl, ih]
    rfl

lemma munches_of_fault_none {strict : Bool} (n : Nat) (t : Text)
    (h : (textFrom strict false n t).fault = none) : ∃ ls, Munches strict t ls := by
  induction hk : t.length using Nat.strong_induction_on generalizing n t with
  | _ k ih =>
    cases t with
    | nil => exact ⟨[], .nil⟩
    | cons c cs =>
      cases hcut : cut strict false c cs with
      | none => simp [textFrom_cons_none n hcut] at h
      | some r =>
        obtain ⟨l, rest⟩ := r
        rw [textFrom_cons_some n hcut] at h
        obtain ⟨ht, hl⟩ := cut_munch hcut
        have hlen := cut_length_le hcut
        obtain ⟨ls, hls⟩ := ih rest.length (by simp at hk; omega) _ rest h rfl
        exact ⟨l :: ls, ht ▸ .cons hl hls⟩

lemma cut_isSome (refsOnly : Bool) (c : Char) (cs : Text) : (cut false refsOnly c cs).isSome := by
  unfold cut cutQuoted
  repeat' split
  all_goals simp_all

lemma fault_permissive (refsOnly : Bool) (n : Nat) (t : Text) :
    (textFrom false refsOnly n t).fault = none := by
  induction hk : t.length using Nat.strong_induction_on generalizing n t with
  | _ k ih =>
    cases t with
    | nil => rw [textFrom]
    | cons c cs =>
      obtain ⟨⟨l, rest⟩, hcut⟩ := Option.isSome_iff_exists.mp (cut_isSome refsOnly c cs)
      rw [textFrom_cons_some n hcut]
      exact ih rest.length (by have := cut_length_le hcut; simp at hk; omega) _ rest rfl

end Scan

namespace Text

open Lexeme

lemma scan_of_munches {strict : Bool} {t : Text} {ls : List Lexeme} (h : Munches strict t ls) :
    t.scan strict false = ⟨ends 0 ls, none⟩ :=
  Scan.textFrom_of_munches h 0

lemma exists_munches (t : Text) : ∃ ls, Munches false t ls :=
  Scan.munches_of_fault_none 0 t (Scan.fault_permissive false 0 t)

lemma isComplete_iff (t : Text) : t.isComplete ↔ ∃ ls, Munches true t ls := by
  rw [isComplete, Option.isNone_iff_eq_none]
  constructor
  · exact Scan.munches_of_fault_none 0 t
  · rintro ⟨ls, h⟩
    rw [scan_of_munches h]

lemma lexemes_of_munches {strict : Bool} {t : Text} {ls : List Lexeme}
    (h : Munches strict t ls) : t.lexemes = ls := by
  rw [lexemes, scan_of_munches h.permissive, map_fst_ends]

lemma munches_lexemes (t : Text) : Munches false t t.lexemes := by
  obtain ⟨ls, h⟩ := t.exists_munches
  rwa [lexemes_of_munches h]

structure Decomposition (t : Text) (xs : List (Lexeme × Nat)) : Prop where
  lossless : join (xs.map Prod.fst) = t
  position : ∀ before x after, xs = before ++ x :: after →
    x.2 = (join ((before ++ [x]).map Prod.fst)).length
  longest : ∀ before x after, xs = before ++ x :: after →
    Munch false x.1 (join (after.map Prod.fst))

lemma decomposition_iff (t : Text) (xs : List (Lexeme × Nat)) :
    Decomposition t xs ↔ Munches false t (xs.map Prod.fst) ∧ xs = ends 0 (xs.map Prod.fst) := by
  rw [munches_iff, eq_ends_iff]
  constructor
  · rintro ⟨hjoin, hpos, hmunch⟩
    refine ⟨⟨hjoin, ?_⟩, by simpa using hpos⟩
    intro before l after h
    obtain ⟨xs₁, xs₂, rfl, rfl, h₂⟩ := List.map_eq_append_iff.mp h
    obtain ⟨x, xs₃, rfl, rfl, rfl⟩ := List.map_eq_cons_iff.mp h₂
    exact hmunch xs₁ x xs₃ rfl
  · rintro ⟨⟨hjoin, hmunch⟩, hpos⟩
    refine ⟨hjoin, by simpa using hpos, ?_⟩
    rintro before x after rfl
    exact hmunch (before.map Prod.fst) x.1 (after.map Prod.fst) (by simp)

theorem scan_eq_iff_decomposition (t : Text) :
    (t.scan false false).fault = none ∧
      ∀ xs, (t.scan false false).lexemes = xs ↔ Decomposition t xs := by
  obtain ⟨ls, h⟩ := t.exists_munches
  rw [scan_of_munches h]
  refine ⟨rfl, fun xs => ?_⟩
  rw [decomposition_iff]
  constructor
  · rintro rfl
    simpa [map_fst_ends] using h
  · rintro ⟨hm, hxs⟩
    obtain rfl : ls = xs.map Prod.fst := (lexemes_of_munches h).symm.trans (lexemes_of_munches hm)
    exact hxs.symm

end Text

end LineShell
