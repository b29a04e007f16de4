import LineShell.Lexeme.Expansion
import LineShell.Proofs.Lexeme.Decomposition
import LineShell.Proofs.Text.Classes

namespace LineShell

lemma isPlain_of_isNameChar {c : Char} (h : isNameChar c) : isPlain c := by
  rw [isPlain_iff]
  refine ⟨Text.not_isBlank_of_isWordChar h, ?_⟩
  by_contra hspecial
  rw [not_isNameChar_of_isSpecial (eq_true_of_ne_false hspecial)] at h
  exact Bool.false_ne_true h

lemma IsName.exists_cons {n : Text} (h : IsName n) :
    ∃ c cs, n = c :: cs ∧ isNameStart c ∧ c ≠ '{' := by
  obtain ⟨c, cs, rfl⟩ := List.exists_cons_of_ne_nil (l := n) (by rintro rfl; simpa using h.start)
  have hstart : isNameStart c := by simpa using h.start
  refine ⟨c, cs, rfl, hstart, ?_⟩
  rintro rfl
  exact absurd hstart (by decide +kernel)

namespace Lexeme

lemma name_named {n : Text} (h : IsName n) : name ⟨.ref, '$' :: n⟩ = n := by
  obtain ⟨c, cs, rfl, -, hne⟩ := h.exists_cons
  simp [name, hne]

lemma name_braced (n : Text) : name ⟨.ref, ['$', '{'] ++ n ++ ['}']⟩ = n := by
  simp [name]

lemma Munch.isName_of_ref {strict : Bool} {l : Lexeme} {rest : Text} (h : Munch strict l rest)
    (hl : l.kind = .ref) : IsName l.name := by
  cases h with
  | named hn => rwa [name_named hn]
  | braced hn => rwa [name_braced]
  | space | pipe | separator | single | double | plain | sigil | brace | unclosed => cases hl

end Lexeme

namespace Text

open Lexeme

variable {n rest : Text}

lemma lexemes_nil : lexemes [] = [] :=
  lexemes_of_munches (.nil : Munches false [] [])

lemma lexemes_named (hn : IsName n) (hr : rest.head?.any isNameChar = false) :
    lexemes ('$' :: n ++ rest) = ⟨.ref, '$' :: n⟩ :: rest.lexemes :=
  lexemes_of_munches (.cons (.named hn hr) rest.munches_lexemes)

lemma lexemes_braced (hn : IsName n) (rest : Text) :
    lexemes (['$', '{'] ++ n ++ ['}'] ++ rest) = ⟨.ref, ['$', '{'] ++ n ++ ['}']⟩ :: rest.lexemes :=
  lexemes_of_munches (.cons (.braced hn) rest.munches_lexemes)

def RefersTo (t n : Text) : Prop :=
  ∃ l, t.lexemes = [l] ∧ l.kind = .ref ∧ l.name = n

lemma RefersTo.isName {t : Text} (h : RefersTo t n) : IsName n := by
  obtain ⟨l, hlexemes, hkind, rfl⟩ := h
  have hmunches := t.munches_lexemes
  rw [hlexemes] at hmunches
  have hmunch := (munches_iff.mp hmunches).2 [] l [] rfl
  exact hmunch.isName_of_ref hkind

lemma refersTo_named_iff : RefersTo ('$' :: n) n ↔ IsName n := by
  refine ⟨RefersTo.isName, fun h => ⟨⟨.ref, '$' :: n⟩, ?_, rfl, name_named h⟩⟩
  have hlexemes : lexemes ('$' :: n ++ []) = _ := lexemes_named h rfl
  rwa [List.append_nil, lexemes_nil] at hlexemes

lemma refersTo_braced_iff : RefersTo (['$', '{'] ++ n ++ ['}']) n ↔ IsName n := by
  refine ⟨RefersTo.isName, fun h => ⟨⟨.ref, ['$', '{'] ++ n ++ ['}']⟩, ?_, rfl, name_braced n⟩⟩
  have hlexemes := lexemes_braced h []
  rwa [List.append_nil, lexemes_nil] at hlexemes

lemma expand_named (vars : Bindings) (hn : IsName n) (hr : rest.head?.any isNameChar = false) :
    expand vars ('$' :: n ++ rest) = (vars n).getD [] ++ expand vars rest := by
  rw [expand, lexemes_named hn hr, List.map_cons, join_cons]
  simp only [substitute, resolve, if_true, name_named hn]
  rfl

lemma expand_braced (vars : Bindings) (hn : IsName n) (rest : Text) :
    expand vars (['$', '{'] ++ n ++ ['}'] ++ rest) = (vars n).getD [] ++ expand vars rest := by
  rw [expand, lexemes_braced hn, List.map_cons, join_cons]
  simp only [substitute, resolve, if_true, name_braced]
  rfl

end Text

end LineShell
