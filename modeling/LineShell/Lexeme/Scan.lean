import LineShell.Lexeme.Basic
import LineShell.Text.Blank
import LineShell.Text.Numeral

/-! Cutting a text into lexemes, the longest possible one each time. Nothing is lost: a reference
that is not well formed and a quote that is never closed become plain text. A strict scan stops at
such a quote instead, and a scan for references only takes everything else as plain text. -/

namespace LineShell

def isNameStart (c : Char) : Bool :=
  Text.isLetter c || c == '_'

def isNameChar (c : Char) : Bool :=
  Text.isWordChar c

def isSpecial (c : Char) : Bool :=
  c == '$' || c == '|' || c == ';' || c == '\'' || c == '"'

def isPlain (c : Char) : Bool :=
  !Text.isBlank c && !isSpecial c

structure OpenQuote where
  quote : Char
  position : Nat
  deriving DecidableEq, Repr

def OpenQuote.message (q : OpenQuote) : Text :=
  "unterminated ".toList ++ q.quote :: " quote".toList

structure Scan where
  lexemes : List (Lexeme × Nat)
  fault : Option OpenQuote
  deriving DecidableEq, Repr

namespace Scan

def cutRef (cs : Text) : Lexeme × Text :=
  match cs with
  | '{' :: rest =>
    let name := rest.takeWhile isNameChar
    match name.head?.any isNameStart, rest.dropWhile isNameChar with
    | true, '}' :: after => (⟨.ref, ['$', '{'] ++ name ++ ['}']⟩, after)
    | _, after => (⟨.plain, ['$', '{'] ++ name⟩, after)
  | c :: _ =>
    if isNameStart c then (⟨.ref, '$' :: cs.takeWhile isNameChar⟩, cs.dropWhile isNameChar)
    else (⟨.plain, ['$']⟩, cs)
  | [] => (⟨.plain, ['$']⟩, [])

def cutQuoted (strict : Bool) (quote : Char) (cs : Text) : Option (Lexeme × Text) :=
  let body := cs.takeWhile (· ≠ quote)
  match cs.dropWhile (· ≠ quote) with
  | [] => if strict then none else some (⟨.plain, quote :: body⟩, [])
  | _ :: after =>
    some (⟨if quote = '\'' then .single else .double, quote :: body ++ [quote]⟩, after)

def cut (strict refsOnly : Bool) (c : Char) (cs : Text) : Option (Lexeme × Text) :=
  if c = '$' then some (cutRef cs)
  else if refsOnly then some (⟨.plain, c :: cs.takeWhile (· ≠ '$')⟩, cs.dropWhile (· ≠ '$'))
  else if Text.isBlank c then
    some (⟨.space, c :: cs.takeWhile Text.isBlank⟩, cs.dropWhile Text.isBlank)
  else if c = '|' then some (⟨.pipe, [c]⟩, cs)
  else if c = ';' then some (⟨.separator, [c]⟩, cs)
  else if c = '\'' || c = '"' then cutQuoted strict c cs
  else some (⟨.plain, c :: cs.takeWhile isPlain⟩, cs.dropWhile isPlain)

theorem length_dropWhile_le (p : Char → Bool) (cs : Text) :
    (cs.dropWhile p).length ≤ cs.length :=
  (List.dropWhile_sublist p).length_le

theorem cutRef_length_le (cs : Text) : (cutRef cs).2.length ≤ cs.length := by
  unfold cutRef
  split
  · rename_i rest
    have h := length_dropWhile_le isNameChar rest
    dsimp only
    split
    · rename_i heq
      rw [heq] at h
      simp only [List.length_cons] at h ⊢
      omega
    · simp only [List.length_cons]
      omega
  · split
    · exact length_dropWhile_le _ _
    · exact Nat.le_refl _
  · exact Nat.le_refl _

theorem cutQuoted_length_le {strict : Bool} {quote : Char} {cs rest : Text} {l : Lexeme}
    (h : cutQuoted strict quote cs = some (l, rest)) : rest.length ≤ cs.length := by
  have hd := length_dropWhile_le (· ≠ quote) cs
  unfold cutQuoted at h
  dsimp only at h
  split at h
  · split at h
    · simp at h
    · simp_all
  · rename_i heq
    rw [heq] at hd
    simp only [Option.some.injEq, Prod.mk.injEq] at h
    simp only [List.length_cons] at hd
    rw [← h.2]
    omega

theorem cut_length_le {strict refsOnly : Bool} {c : Char} {cs rest : Text} {l : Lexeme}
    (h : cut strict refsOnly c cs = some (l, rest)) : rest.length ≤ cs.length := by
  unfold cut at h
  split at h
  · simp only [Option.some.injEq] at h
    have := cutRef_length_le cs
    rwa [h] at this
  split at h
  · simp only [Option.some.injEq, Prod.mk.injEq] at h
    exact h.2 ▸ length_dropWhile_le _ _
  split at h
  · simp only [Option.some.injEq, Prod.mk.injEq] at h
    exact h.2 ▸ length_dropWhile_le _ _
  split at h
  · simp_all
  split at h
  · simp_all
  split at h
  · exact cutQuoted_length_le h
  · simp only [Option.some.injEq, Prod.mk.injEq] at h
    exact h.2 ▸ length_dropWhile_le _ _

def textFrom (strict refsOnly : Bool) (position : Nat) : Text → Scan
  | [] => ⟨[], none⟩
  | c :: cs =>
    match _h : cut strict refsOnly c cs with
    | none => ⟨[], some ⟨c, position⟩⟩
    | some (l, rest) =>
      let stop := position + l.text.length
      let more := textFrom strict refsOnly stop rest
      ⟨(l, stop) :: more.lexemes, more.fault⟩
termination_by cs => cs.length
decreasing_by exact Nat.lt_succ_of_le (cut_length_le (by assumption))

end Scan

def Text.scan (strict refsOnly : Bool) (t : Text) : Scan :=
  Scan.textFrom strict refsOnly 0 t

def Text.lexemes (t : Text) : List Lexeme :=
  (t.scan false false).lexemes.map (·.1)

def Text.references (t : Text) : List Lexeme :=
  (t.scan false true).lexemes.map (·.1)

def Text.isComplete (t : Text) : Bool :=
  (t.scan true false).fault.isNone

end LineShell
