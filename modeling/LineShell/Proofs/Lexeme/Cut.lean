import LineShell.Proofs.Lexeme.Munch

namespace LineShell

lemma takeWhile_append_eq {p : Char → Bool} {w rest : Text} (hw : ∀ c ∈ w, p c)
    (hr : rest.head?.any p = false) : (w ++ rest).takeWhile p = w := by
  rw [List.takeWhile_append_of_pos hw]
  cases rest with
  | nil => simp
  | cons c cs => simp_all

lemma dropWhile_append_eq {p : Char → Bool} {w rest : Text} (hw : ∀ c ∈ w, p c)
    (hr : rest.head?.any p = false) : (w ++ rest).dropWhile p = rest := by
  rw [List.dropWhile_append_of_pos hw]
  cases rest with
  | nil => simp
  | cons c cs => simp_all

lemma head_dropWhile_any (p : Char → Bool) (cs : Text) :
    (cs.dropWhile p).head?.any p = false := by
  induction cs with
  | nil => rfl
  | cons c cs ih => by_cases hc : p c <;> simp [hc, ih]

lemma forall_mem_takeWhile (p : Char → Bool) (cs : Text) : ∀ c ∈ cs.takeWhile p, p c :=
  fun _ hc => List.mem_takeWhile_imp hc

lemma forall_ne_of_not_mem {q : Char} {body : Text} (h : q ∉ body) :
    ∀ c ∈ body, decide (c ≠ q) = true := by
  intro c hc
  simpa using ne_of_mem_of_not_mem hc h

lemma takeWhile_ne_append {q : Char} {body : Text} (h : q ∉ body) (rest : Text) :
    (body ++ q :: rest).takeWhile (· ≠ q) = body :=
  takeWhile_append_eq (forall_ne_of_not_mem h) (by simp)

lemma dropWhile_ne_append {q : Char} {body : Text} (h : q ∉ body) (rest : Text) :
    (body ++ q :: rest).dropWhile (· ≠ q) = q :: rest :=
  dropWhile_append_eq (forall_ne_of_not_mem h) (by simp)

namespace Scan

open Lexeme

lemma cutRef_munch (strict : Bool) (cs : Text) :
    '$' :: cs = (cutRef cs).1.text ++ (cutRef cs).2 ∧ Munch strict (cutRef cs).1 (cutRef cs).2 := by
  unfold cutRef
  split
  · rename_i rest
    have hsplit := List.takeWhile_append_dropWhile (p := isNameChar) (l := rest)
    have hchars := forall_mem_takeWhile isNameChar rest
    have hhead := head_dropWhile_any isNameChar rest
    dsimp only
    split
    · rename_i after hstart hafter
      rw [hafter] at hsplit
      exact ⟨by simp [hsplit], .braced ⟨hstart, hchars⟩⟩
    · rename_i hnot
      refine ⟨by simp [hsplit], .brace hchars hhead ?_⟩
      rintro ⟨hname, hclose⟩
      obtain ⟨after, hafter⟩ := List.head?_eq_some_iff.mp hclose
      exact hnot after hname.start hafter
  · rename_i c tail hc
    split
    · rename_i hstart
      refine ⟨by simp, .named ⟨?_, forall_mem_takeWhile _ _⟩ (head_dropWhile_any _ _)⟩
      simp [isNameChar_of_isNameStart hstart, hstart]
    · rename_i hstart
      refine ⟨rfl, .sigil (by simpa using hstart) ?_⟩
      rintro h
      obtain rfl : c = '{' := by simpa using h
      exact hc rfl
  · exact ⟨rfl, .sigil rfl (by simp)⟩

lemma cutQuoted_munch {strict : Bool} {q : Char} {cs rest : Text} {l : Lexeme} (hq : IsQuote q)
    (h : cutQuoted strict q cs = some (l, rest)) :
    q :: cs = l.text ++ rest ∧ Munch strict l rest := by
  have hsplit := List.takeWhile_append_dropWhile (p := (· ≠ q)) (l := cs)
  have hbody : q ∉ cs.takeWhile (· ≠ q) := fun hmem => by
    simpa using forall_mem_takeWhile _ _ q hmem
  have hhead := head_dropWhile_any (· ≠ q) cs
  unfold cutQuoted at h
  dsimp only at h
  split at h
  · rename_i hdrop
    split at h
    · simp at h
    · rename_i hstrict
      simp only [Option.some.injEq, Prod.mk.injEq] at h
      obtain ⟨rfl, rfl⟩ := h
      rw [hdrop] at hsplit
      exact ⟨by simpa using hsplit.symm, .unclosed (by simpa using hstrict) hq hbody⟩
  · rename_i c after hdrop
    simp only [Option.some.injEq, Prod.mk.injEq] at h
    obtain ⟨rfl, rfl⟩ := h
    rw [hdrop] at hsplit hhead
    obtain rfl : c = q := by simpa using hhead
    refine ⟨by simpa using hsplit.symm, ?_⟩
    rcases hq with rfl | rfl
    · exact .single hbody
    · exact .double hbody

lemma cut_munch {strict : Bool} {c : Char} {cs rest : Text} {l : Lexeme}
    (h : cut strict false c cs = some (l, rest)) :
    c :: cs = l.text ++ rest ∧ Munch strict l rest := by
  simp only [cut, Bool.false_eq_true, ↓reduceIte] at h
  split_ifs at h with hsigil hblank hpipe hsep hquote
  · have href := cutRef_munch strict cs
    rw [Option.some.inj h] at href
    exact hsigil ▸ href
  · obtain ⟨rfl, rfl⟩ := Prod.mk.inj (Option.some.inj h)
    refine ⟨by simp, .space (by simp) ?_ (head_dropWhile_any _ _)⟩
    simpa [hblank] using forall_mem_takeWhile Text.isBlank cs
  · obtain ⟨rfl, rfl⟩ := Prod.mk.inj (Option.some.inj h)
    exact ⟨rfl, hpipe ▸ .pipe⟩
  · obtain ⟨rfl, rfl⟩ := Prod.mk.inj (Option.some.inj h)
    exact ⟨rfl, hsep ▸ .separator⟩
  · exact cutQuoted_munch (by simpa [IsQuote] using hquote) h
  · obtain ⟨rfl, rfl⟩ := Prod.mk.inj (Option.some.inj h)
    have hc : isPlain c := by
      rw [isPlain_iff]
      simp_all [isSpecial]
    refine ⟨by simp, .plain (by simp) ?_ (head_dropWhile_any _ _)⟩
    simpa [hc] using forall_mem_takeWhile isPlain cs

lemma cutRef_named {n rest : Text} (hn : IsName n) (hr : rest.head?.any isNameChar = false) :
    cutRef (n ++ rest) = (⟨.ref, '$' :: n⟩, rest) := by
  obtain ⟨c, n, rfl⟩ := List.exists_cons_of_ne_nil (l := n) (by rintro rfl; simpa using hn.start)
  have hstart : isNameStart c := by simpa using hn.start
  have hbrace : c ≠ '{' := by
    rintro rfl
    exact absurd hstart (by decide +kernel)
  have htake := takeWhile_append_eq hn.chars hr
  have hdrop := dropWhile_append_eq hn.chars hr
  simp only [List.cons_append] at htake hdrop ⊢
  unfold cutRef
  split
  · simp_all
  · simp_all
  · simp_all

lemma cutRef_braced {n rest : Text} (hn : IsName n) :
    cutRef ('{' :: (n ++ '}' :: rest)) = (⟨.ref, ['$', '{'] ++ n ++ ['}']⟩, rest) := by
  have hbrace : isNameChar '}' = false := by decide +kernel
  have hclose : ('}' :: rest).head?.any isNameChar = false := by simpa using hbrace
  simp only [cutRef, takeWhile_append_eq hn.chars hclose, dropWhile_append_eq hn.chars hclose,
    hn.start]

lemma cutRef_brace {n rest : Text} (hn : ∀ c ∈ n, isNameChar c)
    (hr : rest.head?.any isNameChar = false) (hnot : ¬ (IsName n ∧ rest.head? = some '}')) :
    cutRef ('{' :: (n ++ rest)) = (⟨.plain, ['$', '{'] ++ n⟩, rest) := by
  simp only [cutRef, takeWhile_append_eq hn hr, dropWhile_append_eq hn hr]
  split
  · rename_i hstart
    exact absurd ⟨⟨hstart, hn⟩, rfl⟩ hnot
  · rfl

lemma cutRef_sigil {cs : Text} (hs : cs.head?.any isNameStart = false)
    (hb : cs.head? ≠ some '{') : cutRef cs = (⟨.plain, ['$']⟩, cs) := by
  unfold cutRef
  split
  · simp at hb
  · simp_all
  · rfl

lemma cutQuoted_closed (strict : Bool) {q : Char} {body rest : Text} (hq : q ∉ body) :
    cutQuoted strict q (body ++ q :: rest) =
      some (⟨if q = '\'' then .single else .double, q :: body ++ [q]⟩, rest) := by
  simp only [cutQuoted, takeWhile_ne_append hq, dropWhile_ne_append hq]

lemma cutQuoted_unclosed (strict : Bool) {q : Char} {body : Text} (hq : q ∉ body) :
    cutQuoted strict q body = if strict then none else some (⟨.plain, q :: body⟩, []) := by
  have hbody := forall_ne_of_not_mem hq
  simp only [cutQuoted, List.takeWhile_eq_self_iff.mpr hbody, List.dropWhile_eq_nil_iff.mpr hbody]

lemma cut_eq_some_iff {strict : Bool} {c : Char} {cs rest : Text} {l : Lexeme} :
    cut strict false c cs = some (l, rest) ↔ c :: cs = l.text ++ rest ∧ Munch strict l rest := by
  refine ⟨cut_munch, ?_⟩
  rintro ⟨ht, h⟩
  cases h with
  | @space t rest hne hblank hr =>
    obtain ⟨d, t, rfl⟩ := List.exists_cons_of_ne_nil hne
    obtain ⟨rfl, rfl⟩ := List.cons.inj ht
    have hc : Text.isBlank c := hblank c (by simp)
    have hs : c ≠ '$' := by rintro rfl; exact absurd hc (by decide)
    have ht : ∀ d ∈ t, Text.isBlank d := fun d hd => hblank d (by simp [hd])
    simp [cut, hs, hc, takeWhile_append_eq ht hr, dropWhile_append_eq ht hr]
  | pipe =>
    obtain ⟨rfl, rfl⟩ := List.cons.inj ht
    simp [cut, not_isBlank_of_isSpecial (c := '|') rfl]
  | separator =>
    obtain ⟨rfl, rfl⟩ := List.cons.inj ht
    simp [cut, not_isBlank_of_isSpecial (c := ';') rfl]
  | single hbody =>
    obtain ⟨rfl, rfl⟩ := List.cons.inj ht
    simp [cut, not_isBlank_of_isSpecial (c := '\'') rfl, cutQuoted_closed strict hbody]
  | double hbody =>
    obtain ⟨rfl, rfl⟩ := List.cons.inj ht
    simp [cut, not_isBlank_of_isSpecial (c := '"') rfl, cutQuoted_closed strict hbody]
  | named hn hr =>
    obtain ⟨rfl, rfl⟩ := List.cons.inj ht
    simp [cut, cutRef_named hn hr]
  | braced hn =>
    obtain ⟨rfl, rfl⟩ := List.cons.inj ht
    simp [cut, cutRef_braced hn]
  | @plain t rest hne hplain hr =>
    obtain ⟨d, t, rfl⟩ := List.exists_cons_of_ne_nil hne
    obtain ⟨rfl, rfl⟩ := List.cons.inj ht
    obtain ⟨hb, hs⟩ := (isPlain_iff c).mp (hplain c (by simp))
    have ht : ∀ d ∈ t, isPlain d := fun d hd => hplain d (by simp [hd])
    have hns : ¬ (c = '$' ∨ c = '|' ∨ c = ';' ∨ c = '\'' ∨ c = '"') := by
      rw [← isSpecial_iff, hs]
      exact Bool.false_ne_true
    simp only [not_or] at hns
    simp [cut, hb, hns, takeWhile_append_eq ht hr, dropWhile_append_eq ht hr]
  | sigil hs hb =>
    obtain ⟨rfl, rfl⟩ := List.cons.inj ht
    simp [cut, cutRef_sigil hs hb]
  | brace hn hr hnot =>
    obtain ⟨rfl, rfl⟩ := List.cons.inj ht
    simp [cut, cutRef_brace hn hr hnot]
  | unclosed hstrict hq hbody =>
    obtain ⟨rfl, rfl⟩ := List.cons.inj ht
    subst hstrict
    rcases hq with rfl | rfl
    · simp [cut, not_isBlank_of_isSpecial (c := '\'') rfl, cutQuoted_unclosed false hbody]
    · simp [cut, not_isBlank_of_isSpecial (c := '"') rfl, cutQuoted_unclosed false hbody]

end Scan

end LineShell
