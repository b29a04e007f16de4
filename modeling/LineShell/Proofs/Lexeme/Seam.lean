import LineShell.Lexeme.Expansion
import LineShell.Proofs.Lexeme.Decomposition

namespace LineShell

lemma head_append_special (rest tail : Text) (c : Char) :
    (rest ++ c :: tail).head? = rest.head? ∨ (rest ++ c :: tail).head? = some c := by
  cases rest with
  | nil => exact Or.inr rfl
  | cons d rest => exact Or.inl rfl

lemma any_head_append_special {p : Char → Bool} {rest tail : Text} {c : Char} (hc : p c = false)
    (hr : rest.head?.any p = false) : (rest ++ c :: tail).head?.any p = false := by
  rcases head_append_special rest tail c with h | h
  · rwa [h]
  · rw [h]
    exact hc

lemma not_isPlain_of_isSpecial {c : Char} (h : isSpecial c) : isPlain c = false := by
  simp [isPlain, h]

lemma not_isNameStart_of_isSpecial {c : Char} (h : isSpecial c) : isNameStart c = false := by
  by_contra hs
  have hn := isNameChar_of_isNameStart (by simpa using hs)
  rw [not_isNameChar_of_isSpecial h] at hn
  exact Bool.false_ne_true hn

lemma ne_brace_of_isSpecial {c : Char} (h : isSpecial c) : c ≠ '{' ∧ c ≠ '}' := by
  rcases (isSpecial_iff c).mp h with rfl | rfl | rfl | rfl | rfl <;> decide

namespace Lexeme

-- No special character continues a lexeme, so only an open quote can reach across the seam.
lemma Munch.append_special {strict : Bool} {l : Lexeme} {rest : Text} {c : Char} (hc : isSpecial c)
    (tail : Text) (h : Munch true l rest) : Munch strict l (rest ++ c :: tail) := by
  cases h with
  | space hne hb hr =>
    exact .space hne hb (any_head_append_special (not_isBlank_of_isSpecial hc) hr)
  | pipe => exact .pipe
  | separator => exact .separator
  | single hb => exact .single hb
  | double hb => exact .double hb
  | named hn hr =>
    exact .named hn (any_head_append_special (not_isNameChar_of_isSpecial hc) hr)
  | braced hn => exact .braced hn
  | plain hne hp hr =>
    exact .plain hne hp (any_head_append_special (not_isPlain_of_isSpecial hc) hr)
  | sigil hs hb =>
    refine .sigil (any_head_append_special (not_isNameStart_of_isSpecial hc) hs) ?_
    rcases head_append_special rest tail c with h | h
    · rwa [h]
    · rw [h]
      simpa using (ne_brace_of_isSpecial hc).1
  | brace hn hr hnot =>
    refine .brace hn (any_head_append_special (not_isNameChar_of_isSpecial hc) hr) ?_
    rintro ⟨hname, hclose⟩
    rcases head_append_special rest tail c with h | h
    · exact hnot ⟨hname, h ▸ hclose⟩
    · rw [h] at hclose
      exact (ne_brace_of_isSpecial hc).2 (Option.some.inj hclose)
  | unclosed hstrict => exact absurd hstrict (by decide)

lemma Munches.append_special {strict : Bool} {t tail : Text} {c : Char} {ls ms : List Lexeme}
    (hc : isSpecial c) (h : Munches true t ls) (hm : Munches strict (c :: tail) ms) :
    Munches strict (t ++ c :: tail) (ls ++ ms) := by
  induction h with
  | nil => exact hm
  | cons hl _ ih =>
    rw [List.append_assoc]
    exact .cons (hl.append_special hc tail) ih

def semicolon : Lexeme := ⟨.separator, [';']⟩

lemma absorb_of_not_isWord {l : Lexeme} (hl : l.isWord = false) (ls : List Lexeme) :
    absorb l ls = l :: ls := by
  cases ls with
  | nil => simp [absorb, hl]
  | cons k ls =>
    obtain ⟨kind, text⟩ := k
    cases kind <;> simp [absorb, hl]

lemma absorb_plain {l k : Lexeme} (hl : l.isWord) (hk : k.kind = .plain) (ls : List Lexeme) :
    absorb l (k :: ls) = ⟨.plain, l.value ++ k.text⟩ :: ls := by
  obtain ⟨kind, text⟩ := k
  subst hk
  simp [absorb, hl]

lemma absorb_of_ne_plain {l k : Lexeme} (hl : l.isWord) (hk : k.kind ≠ .plain)
    (ls : List Lexeme) : absorb l (k :: ls) = ⟨.plain, l.value⟩ :: k :: ls := by
  obtain ⟨kind, text⟩ := k
  cases kind <;> simp_all [absorb]

lemma absorb_append {m : Lexeme} (hm : m.isWord = false) (l : Lexeme) (ls ms : List Lexeme) :
    absorb l (ls ++ m :: ms) = absorb l ls ++ m :: ms := by
  cases ls with
  | nil =>
    obtain ⟨kind, text⟩ := m
    cases kind <;> cases hl : l.isWord <;> simp_all [absorb, isWord]
  | cons k ls =>
    obtain ⟨kind, text⟩ := k
    cases kind <;> cases hl : l.isWord <;> simp [absorb, hl]

lemma fuse_append {m : Lexeme} (hm : m.isWord = false) (ls ms : List Lexeme) :
    fuse (ls ++ m :: ms) = fuse ls ++ m :: fuse ms := by
  induction ls with
  | nil =>
    change absorb m (fuse ms) = m :: fuse ms
    cases hms : fuse ms with
    | nil => simp [absorb, hm]
    | cons k ks =>
      obtain ⟨kind, text⟩ := k
      cases kind <;> simp [absorb, hm]
  | cons l ls ih =>
    change absorb l (fuse (ls ++ m :: ms)) = absorb l (fuse ls) ++ m :: fuse ms
    rw [ih, absorb_append hm]

end Lexeme

namespace Text

open Lexeme

lemma lexemes_append_separator {a : Text} (ha : a.isComplete) (b : Text) :
    lexemes (a ++ ';' :: b) = a.lexemes ++ semicolon :: b.lexemes := by
  obtain ⟨ls, h⟩ := a.isComplete_iff.mp ha
  have hb : Munches false (';' :: b) (semicolon :: b.lexemes) := .cons .separator b.munches_lexemes
  rw [lexemes_of_munches (h.append_special rfl hb), lexemes_of_munches h]

lemma expand_append_separator {a : Text} (vars : Bindings) (ha : a.isComplete) (b : Text) :
    expand vars (a ++ ';' :: b) = a.expand vars ++ ';' :: b.expand vars := by
  simp [expand, lexemes_append_separator ha, semicolon, substitute, resolve]

lemma tokens_append_separator {a : Text} (vars : Bindings) (ha : a.isComplete)
    (he : (a.expand vars).isComplete) (b : Text) :
    tokens vars (a ++ ';' :: b) = a.tokens vars ++ semicolon :: b.tokens vars := by
  simp only [tokens, expand_append_separator vars ha, lexemes_append_separator he]
  exact fuse_append rfl _ _

end Text

end LineShell
