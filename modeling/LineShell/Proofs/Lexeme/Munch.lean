import LineShell.Lexeme.Scan
import Mathlib.Data.List.TakeWhile

namespace LineShell

structure IsName (n : Text) : Prop where
  start : n.head?.any isNameStart = true
  chars : ∀ c ∈ n, isNameChar c

def IsQuote (q : Char) : Prop :=
  q = '\'' ∨ q = '"'

lemma isSpecial_iff (c : Char) :
    isSpecial c ↔ c = '$' ∨ c = '|' ∨ c = ';' ∨ c = '\'' ∨ c = '"' := by
  simp [isSpecial, or_assoc]

lemma not_isBlank_of_isSpecial {c : Char} (h : isSpecial c) : Text.isBlank c = false := by
  rcases (isSpecial_iff c).mp h with rfl | rfl | rfl | rfl | rfl <;> decide

lemma not_isNameChar_of_isSpecial {c : Char} (h : isSpecial c) : isNameChar c = false := by
  rcases (isSpecial_iff c).mp h with rfl | rfl | rfl | rfl | rfl <;> decide +kernel

lemma isPlain_iff (c : Char) : isPlain c ↔ Text.isBlank c = false ∧ isSpecial c = false := by
  simp [isPlain]

lemma isNameChar_of_isNameStart {c : Char} (h : isNameStart c) : isNameChar c := by
  simp only [isNameStart, isNameChar, Text.isWordChar, Text.isAlphanumeric, Bool.or_eq_true] at h ⊢
  rcases h with h | h
  · exact Or.inl (Or.inl h)
  · exact Or.inr h

namespace Lexeme

/-- A lexeme that is well formed and as long as the text behind it allows. Only a scan that is not
strict takes a quote that is never closed, up to the end of the text. -/
inductive Munch (strict : Bool) : Lexeme → Text → Prop
  | space {t rest : Text} : t ≠ [] → (∀ c ∈ t, Text.isBlank c) →
      rest.head?.any Text.isBlank = false → Munch strict ⟨.space, t⟩ rest
  | pipe {rest : Text} : Munch strict ⟨.pipe, ['|']⟩ rest
  | separator {rest : Text} : Munch strict ⟨.separator, [';']⟩ rest
  | single {body rest : Text} : '\'' ∉ body → Munch strict ⟨.single, '\'' :: body ++ ['\'']⟩ rest
  | double {body rest : Text} : '"' ∉ body → Munch strict ⟨.double, '"' :: body ++ ['"']⟩ rest
  | named {n rest : Text} : IsName n → rest.head?.any isNameChar = false →
      Munch strict ⟨.ref, '$' :: n⟩ rest
  | braced {n rest : Text} : IsName n → Munch strict ⟨.ref, ['$', '{'] ++ n ++ ['}']⟩ rest
  | plain {t rest : Text} : t ≠ [] → (∀ c ∈ t, isPlain c) → rest.head?.any isPlain = false →
      Munch strict ⟨.plain, t⟩ rest
  | sigil {rest : Text} : rest.head?.any isNameStart = false → rest.head? ≠ some '{' →
      Munch strict ⟨.plain, ['$']⟩ rest
  | brace {n rest : Text} : (∀ c ∈ n, isNameChar c) → rest.head?.any isNameChar = false →
      ¬ (IsName n ∧ rest.head? = some '}') → Munch strict ⟨.plain, ['$', '{'] ++ n⟩ rest
  | unclosed {q : Char} {body : Text} : strict = false → IsQuote q → q ∉ body →
      Munch strict ⟨.plain, q :: body⟩ []

lemma Munch.text_ne_nil {strict : Bool} {l : Lexeme} {rest : Text} (h : Munch strict l rest) :
    l.text ≠ [] := by
  cases h <;> simp_all

lemma Munch.permissive {strict : Bool} {l : Lexeme} {rest : Text} (h : Munch strict l rest) :
    Munch false l rest := by
  cases h with
  | space hne hb hr => exact .space hne hb hr
  | pipe => exact .pipe
  | separator => exact .separator
  | single hb => exact .single hb
  | double hb => exact .double hb
  | named hn hr => exact .named hn hr
  | braced hn => exact .braced hn
  | plain hne hp hr => exact .plain hne hp hr
  | sigil hs hb => exact .sigil hs hb
  | brace hn hr hnot => exact .brace hn hr hnot
  | unclosed _ hq hb => exact .unclosed rfl hq hb

@[simp] lemma join_nil : join [] = [] := rfl

@[simp] lemma join_cons (l : Lexeme) (ls : List Lexeme) : join (l :: ls) = l.text ++ join ls := rfl

@[simp] lemma join_append (ls ms : List Lexeme) : join (ls ++ ms) = join ls ++ join ms := by
  simp [join]

inductive Munches (strict : Bool) : Text → List Lexeme → Prop
  | nil : Munches strict [] []
  | cons {l : Lexeme} {rest : Text} {ls : List Lexeme} : Munch strict l rest →
      Munches strict rest ls → Munches strict (l.text ++ rest) (l :: ls)

lemma Munches.permissive {strict : Bool} {t : Text} {ls : List Lexeme} (h : Munches strict t ls) :
    Munches false t ls := by
  induction h with
  | nil => exact .nil
  | cons hl _ ih => exact .cons hl.permissive ih

lemma Munches.join {strict : Bool} {t : Text} {ls : List Lexeme} (h : Munches strict t ls) :
    join ls = t := by
  induction h with
  | nil => rfl
  | cons _ _ ih => rw [join_cons, ih]

def ends (n : Nat) : List Lexeme → List (Lexeme × Nat)
  | [] => []
  | l :: ls => (l, n + l.text.length) :: ends (n + l.text.length) ls

@[simp] lemma map_fst_ends (n : Nat) (ls : List Lexeme) : (ends n ls).map Prod.fst = ls := by
  induction ls generalizing n with
  | nil => rfl
  | cons l ls ih => simp [ends, ih]

lemma munches_iff {strict : Bool} {t : Text} {ls : List Lexeme} :
    Munches strict t ls ↔ join ls = t ∧
      ∀ before l after, ls = before ++ l :: after → Munch strict l (join after) := by
  constructor
  · intro h
    refine ⟨h.join, ?_⟩
    induction h with
    | nil => simp
    | cons hl hls ih =>
      intro before m after hm
      cases before with
      | nil =>
        obtain ⟨rfl, rfl⟩ := List.cons.inj hm
        rwa [hls.join]
      | cons b before => exact ih before m after (List.cons.inj hm).2
  · rintro ⟨rfl, h⟩
    induction ls with
    | nil => exact .nil
    | cons l ls ih =>
      refine .cons (h [] l ls rfl) (ih fun before m after hm => ?_)
      exact h (l :: before) m after (by rw [hm, List.cons_append])

lemma eq_ends_iff {n : Nat} {xs : List (Lexeme × Nat)} :
    xs = ends n (xs.map Prod.fst) ↔ ∀ before x after, xs = before ++ x :: after →
      x.2 = n + (join ((before ++ [x]).map Prod.fst)).length := by
  induction xs generalizing n with
  | nil => simp [ends]
  | cons y ys ih =>
    simp only [List.map_cons, ends, List.cons.injEq]
    constructor
    · rintro ⟨hy, hys⟩ before x after hx
      cases before with
      | nil =>
        obtain ⟨rfl, -⟩ := List.cons.inj hx
        rw [hy]
        simp
      | cons b before =>
        obtain ⟨rfl, htail⟩ := List.cons.inj hx
        have := ih.mp hys before x after htail
        simp only [List.cons_append, List.map_cons, join_cons, List.length_append] at this ⊢
        omega
    · intro h
      refine ⟨Prod.ext rfl (by simpa using h [] y ys rfl), ih.mpr fun before x after hx => ?_⟩
      have := h (y :: before) x after (by rw [hx, List.cons_append])
      simp only [List.cons_append, List.map_cons, join_cons, List.length_append] at this ⊢
      omega

end Lexeme

end LineShell
