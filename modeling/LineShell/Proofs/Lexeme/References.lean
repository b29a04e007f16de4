import LineShell.Lexeme.Expansion
import LineShell.Proofs.Lexeme.Decomposition

namespace LineShell

namespace Lexeme

inductive Refs : Text → List Lexeme → Prop
  | nil : Refs [] []
  | sigil {l : Lexeme} {rest : Text} {ls : List Lexeme} : Munch false l rest →
      l.text.head? = some '$' → Refs rest ls → Refs (l.text ++ rest) (l :: ls)
  | between {t rest : Text} {ls : List Lexeme} : '$' ∉ t → Refs rest ls →
      Refs (t ++ rest) (⟨.plain, t⟩ :: ls)

lemma Refs.join {t : Text} {ls : List Lexeme} (h : Refs t ls) : join ls = t := by
  induction h with
  | nil => rfl
  | sigil _ _ _ ih => rw [join_cons, ih]
  | between _ _ ih => rw [join_cons, ih]

lemma Refs.plain_of_not_mem {t : Text} {ls : List Lexeme} (h : Refs t ls) (ht : '$' ∉ t) :
    ∀ l ∈ ls, l.kind = .plain := by
  induction h with
  | nil => simp
  | sigil _ hhead _ _ => exact absurd (List.mem_append_left _ (List.mem_of_head? hhead)) ht
  | between _ _ ih =>
    refine List.forall_mem_cons.mpr ⟨rfl, ih fun hmem => ht ?_⟩
    exact List.mem_append_right _ hmem

end Lexeme

namespace Scan

open Lexeme

lemma refs_textFrom (n : Nat) (t : Text) :
    Refs t ((textFrom false true n t).lexemes.map Prod.fst) := by
  induction hk : t.length using Nat.strong_induction_on generalizing n t with
  | _ k ih =>
    cases t with
    | nil =>
      rw [textFrom]
      exact .nil
    | cons c cs =>
      obtain ⟨⟨l, rest⟩, hcut⟩ := Option.isSome_iff_exists.mp (cut_isSome true c cs)
      have hlen := cut_length_le hcut
      have hrest := ih rest.length (by simp at hk; omega) (n + l.text.length) rest rfl
      rw [textFrom_cons_some n hcut]
      by_cases hc : c = '$'
      · subst hc
        have hl : cutRef cs = (l, rest) := by simpa [cut] using hcut
        have href := cutRef_munch false cs
        rw [hl] at href
        rw [href.1]
        obtain ⟨d, body, htext⟩ := List.exists_cons_of_ne_nil href.2.text_ne_nil
        have hhead : '$' = d := by
          rw [htext] at href
          exact (List.cons.inj href.1).1
        exact .sigil href.2 (by rw [htext, hhead, List.head?_cons]) hrest
      · have hl : (⟨.plain, c :: cs.takeWhile (· ≠ '$')⟩, cs.dropWhile (· ≠ '$')) = (l, rest) := by
          simpa [cut, hc] using hcut
        obtain ⟨rfl, rfl⟩ := Prod.mk.inj hl
        have hbetween : '$' ∉ c :: cs.takeWhile (· ≠ '$') := by
          intro hmem
          rcases List.mem_cons.mp hmem with h | h
          · exact hc h.symm
          · simpa using forall_mem_takeWhile _ _ '$' h
        have hrefs := Refs.between hbetween hrest
        rwa [List.cons_append, List.takeWhile_append_dropWhile] at hrefs

end Scan

namespace Lexeme

lemma refs_references (t : Text) : Refs t t.references :=
  Scan.refs_textFrom 0 t

lemma resolve_of_ne {l : Lexeme} (h : l.kind ≠ .ref) (vars : Bindings) : l.resolve vars = l :=
  if_neg h

lemma resolve_of_ref {l : Lexeme} (h : l.kind = .ref) (vars : Bindings) :
    l.resolve vars = ⟨.plain, (vars l.name).getD []⟩ :=
  if_pos h

lemma mem_fill {vars : Bindings} {t : Text} {c : Char} (h : c ∈ fill vars t) :
    c ∈ t ∨ ∃ r ∈ t.references, r.kind = .ref ∧ c ∈ (vars r.name).getD [] := by
  obtain ⟨_, hl, hc⟩ := List.mem_flatMap.mp h
  obtain ⟨r, hr, rfl⟩ := List.mem_map.mp hl
  by_cases hk : r.kind = .ref
  · rw [resolve_of_ref hk] at hc
    exact Or.inr ⟨r, hr, hk, hc⟩
  · rw [resolve_of_ne hk] at hc
    rw [← (refs_references t).join]
    exact Or.inl (List.mem_flatMap.mpr ⟨r, hr, hc⟩)

lemma fill_of_not_mem {t : Text} (h : '$' ∉ t) (vars : Bindings) : fill vars t = t := by
  have hrefs := refs_references t
  have hresolve : ∀ l ∈ t.references, l.resolve vars = l := by
    intro l hl
    exact resolve_of_ne (by simp [hrefs.plain_of_not_mem h l hl]) vars
  rw [fill, List.map_congr_left hresolve, List.map_id', hrefs.join]

end Lexeme

end LineShell
