import LineShell.Lexeme.Scan
import Mathlib.Data.List.Chain
import Mathlib.Data.List.TakeWhile

/-! Classes of characters that exclude each other: letters, numerals and white space. The tables are
too long to compare every range with every other, but they are sorted, so one pass over both is
enough. -/

namespace LineShell.Text

namespace CodeSet

lemma contains_iff {s : CodeSet} {code : Nat} :
    s.contains code ↔ ∃ r ∈ s, r.1 ≤ code ∧ code ≤ r.2 := by
  simp [contains]

def Ascending (s : CodeSet) : Prop :=
  s.IsChain fun r q => r.1 ≤ q.1

instance (s : CodeSet) : Decidable s.Ascending :=
  inferInstanceAs (Decidable (s.IsChain fun r q => r.1 ≤ q.1))

def apart : CodeSet → CodeSet → Bool
  | [], _ => true
  | r :: s, t =>
    let above := t.dropWhile (·.2 < r.1)
    above.head?.all (r.2 < ·.1) && apart s above

lemma Ascending.pairwise {s : CodeSet} (h : s.Ascending) : s.Pairwise fun r q => r.1 ≤ q.1 := by
  have htrans : IsTrans (Nat × Nat) fun r q => r.1 ≤ q.1 := ⟨fun _ _ _ => Nat.le_trans⟩
  exact List.IsChain.pairwise h

lemma mem_dropWhile_of_not {p : Nat × Nat → Bool} {t : CodeSet} {q : Nat × Nat} (hq : q ∈ t)
    (hp : p q = false) : q ∈ t.dropWhile p := by
  rw [← List.takeWhile_append_dropWhile (p := p) (l := t)] at hq
  rcases List.mem_append.mp hq with h | h
  · have := List.mem_takeWhile_imp h
    simp_all
  · exact h

-- By induction on the first set: a range of the second that is dropped lies below all that follows
-- in the first, and of those that stay the first one starts lowest.
lemma lt_or_lt_of_apart {s t : CodeSet} (hs : s.Pairwise fun r q => r.1 ≤ q.1)
    (ht : t.Pairwise fun r q => r.1 ≤ q.1) (h : apart s t) {r q : Nat × Nat} (hr : r ∈ s)
    (hq : q ∈ t) : r.2 < q.1 ∨ q.2 < r.1 := by
  induction s generalizing t with
  | nil => simp at hr
  | cons a s ih =>
    simp only [apart, Bool.and_eq_true] at h
    obtain ⟨hhead, hrest⟩ := h
    have har : a.1 ≤ r.1 := by
      rcases List.mem_cons.mp hr with rfl | hmem
      · exact Nat.le_refl _
      · exact List.rel_of_pairwise_cons hs hmem
    by_cases hbelow : q.2 < a.1
    · exact Or.inr (Nat.lt_of_lt_of_le hbelow har)
    have habove : q ∈ t.dropWhile (·.2 < a.1) := mem_dropWhile_of_not hq (by simpa using hbelow)
    have hsorted := ht.sublist (List.dropWhile_sublist (·.2 < a.1))
    rcases List.mem_cons.mp hr with rfl | hmem
    · obtain ⟨b, bs, hb⟩ := List.exists_cons_of_ne_nil (List.ne_nil_of_mem habove)
      rw [hb] at hhead habove hsorted
      have hlt : r.2 < b.1 := by simpa using hhead
      have hbq : b.1 ≤ q.1 := by
        rcases List.mem_cons.mp habove with rfl | hmem
        · exact Nat.le_refl _
        · exact List.rel_of_pairwise_cons hsorted hmem
      exact Or.inl (Nat.lt_of_lt_of_le hlt hbq)
    · exact ih hs.of_cons hsorted hrest hmem habove

lemma not_contains_of_apart {s t : CodeSet} {code : Nat} (hs : s.Ascending) (ht : t.Ascending)
    (h : apart s t) (hc : s.contains code) : t.contains code = false := by
  by_contra hne
  obtain ⟨r, hr, hrc⟩ := contains_iff.mp hc
  obtain ⟨q, hq, hqc⟩ := contains_iff.mp (eq_true_of_ne_false hne)
  have hlt := lt_or_lt_of_apart hs.pairwise ht.pairwise h hr hq
  omega

end CodeSet

lemma ascending_letters : letters.Ascending := by decide +kernel

lemma ascending_numerals : numerals.Ascending := by decide +kernel

lemma ascending_blanks : blanks.Ascending := by decide +kernel

lemma not_isNumeral_of_isLetter {c : Char} (h : isLetter c) : isNumeral c = false :=
  CodeSet.not_contains_of_apart ascending_letters ascending_numerals (by decide +kernel) h

lemma isNumeral_of_isDecimal {c : Char} (h : isDecimal c) : isNumeral c := by
  have hwithin : decimalZeros.all (fun z => numerals.any fun r => r.1 ≤ z && z + 9 ≤ r.2) := by
    decide +kernel
  obtain ⟨z, hz⟩ : ∃ z, decimalZeros.find? (fun z => z ≤ c.toNat && c.toNat < z + 10) = some z := by
    simpa [isDecimal, decimalValue?, Option.isSome_iff_exists] using h
  have hmem := List.mem_of_find?_eq_some hz
  have hcode := List.find?_some hz
  obtain ⟨r, hr, hrz⟩ := List.any_eq_true.mp (List.all_eq_true.mp hwithin z hmem)
  simp only [Bool.and_eq_true, decide_eq_true_eq] at hcode hrz
  exact CodeSet.contains_iff.mpr ⟨r, hr, by omega, by omega⟩

lemma not_isBlank_of_isWordChar {c : Char} (h : isWordChar c) : isBlank c = false := by
  simp only [isWordChar, isAlphanumeric, Bool.or_eq_true, beq_iff_eq] at h
  rcases h with (h | h) | rfl
  · exact CodeSet.not_contains_of_apart ascending_letters ascending_blanks (by decide +kernel) h
  · exact CodeSet.not_contains_of_apart ascending_numerals ascending_blanks (by decide +kernel) h
  · decide

end LineShell.Text
