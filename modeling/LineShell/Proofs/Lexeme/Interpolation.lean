import LineShell.Proofs.Lexeme.Name
import LineShell.Proofs.Lexeme.References
import LineShell.Proofs.Lexeme.Seam

/-! Expansion in one pass over the characters of a line, without lexemes: at each place the scan
looks for a reference, then for a quote, and else copies one character. -/

namespace LineShell

instance (q : Char) : Decidable (IsQuote q) :=
  inferInstanceAs (Decidable (_ ∨ _))

lemma isName_iff_all (n : Text) :
    (n.head?.any isNameStart && n.all isNameChar) = true ↔ IsName n := by
  rw [Bool.and_eq_true, List.all_eq_true]
  exact ⟨fun h => ⟨h.1, h.2⟩, fun h => ⟨h.start, h.chars⟩⟩

instance (n : Text) : Decidable (IsName n) :=
  decidable_of_iff _ (isName_iff_all n)

lemma IsQuote.ne_sigil {q : Char} (h : IsQuote q) : q ≠ '$' := by
  rcases h with rfl | rfl <;> decide

lemma not_isNameChar_brace : isNameChar '}' = false := by
  decide +kernel

lemma IsName.not_mem_brace {n : Text} (h : IsName n) : '}' ∉ n := by
  intro hmem
  have hchar := h.chars _ hmem
  rw [not_isNameChar_brace] at hchar
  cases hchar

namespace Text

structure Reference (t n rest : Text) : Prop where
  name : IsName n
  form : t = '$' :: (n ++ rest) ∧ rest.head?.any isNameChar = false ∨
    t = '$' :: '{' :: (n ++ '}' :: rest)

def reference? : Text → Option (Text × Text)
  | '$' :: '{' :: cs =>
    let n := cs.takeWhile (· ≠ '}')
    if IsName n ∧ '}' ∈ cs then some (n, cs.drop (n.length + 1)) else none
  | '$' :: cs =>
    let n := cs.takeWhile isNameChar
    if IsName n then some (n, cs.dropWhile isNameChar) else none
  | _ => none

lemma Reference.length_lt {t n rest : Text} (h : Reference t n rest) : rest.length < t.length := by
  rcases h.form with ⟨rfl, -⟩ | rfl
  · simp only [List.length_cons, List.length_append]
    omega
  · simp only [List.length_cons, List.length_append]
    omega

lemma reference?_eq_some_iff {t n rest : Text} :
    reference? t = some (n, rest) ↔ Reference t n rest := by
  constructor
  · intro h
    unfold reference? at h
    split at h
    · obtain ⟨⟨hn, hclose⟩, h⟩ := Option.ite_none_right_eq_some.mp h
      obtain ⟨rfl, rfl⟩ := Prod.mk.inj (Option.some.inj h)
      obtain ⟨w, after, rfl, hw⟩ := List.eq_append_cons_of_mem hclose
      rw [takeWhile_ne_append hw] at hn ⊢
      exact ⟨hn, Or.inr (by simp)⟩
    · rename_i cs _
      obtain ⟨hn, h⟩ := Option.ite_none_right_eq_some.mp h
      obtain ⟨rfl, rfl⟩ := Prod.mk.inj (Option.some.inj h)
      exact ⟨hn, Or.inl ⟨by simp, head_dropWhile_any isNameChar cs⟩⟩
    · cases h
  · rintro ⟨hn, ⟨rfl, hr⟩ | rfl⟩
    · have htake := takeWhile_append_eq hn.chars hr
      have hdrop := dropWhile_append_eq hn.chars hr
      obtain ⟨c, cs, rfl, -, hne⟩ := hn.exists_cons
      simp_all [reference?]
    · simp only [reference?, takeWhile_ne_append hn.not_mem_brace]
      simp [hn]

/-- A text with its references replaced by values, which are not looked at again. Where `quotes`
count, the text between single quotes and the text behind a quote that is never closed are copied as
they stand; between double quotes no quotes count. -/
def interpolate (vars : Bindings) (quotes : Bool) (t : Text) : Text :=
  match t with
  | [] => []
  | c :: cs =>
    match _h : reference? (c :: cs) with
    | some (n, rest) => (vars n).getD [] ++ interpolate vars quotes rest
    | none =>
      if quotes = true ∧ IsQuote c then
        if c ∈ cs then
          let body := cs.takeWhile (· ≠ c)
          let rest := cs.drop (body.length + 1)
          c :: (if c = '"' then interpolate vars false body else body) ++
            c :: interpolate vars quotes rest
        else c :: cs
      else c :: interpolate vars quotes cs
termination_by t.length
decreasing_by
  · exact (reference?_eq_some_iff.mp (by assumption)).length_lt
  · exact Nat.lt_succ_of_le (List.takeWhile_sublist _).length_le
  · simp only [List.length_drop, List.length_cons]
    omega
  · exact Nat.lt_succ_self _

section

variable (vars : Bindings) {quotes : Bool} {c : Char} {t cs n rest body w : Text}

@[simp] lemma interpolate_nil : interpolate vars quotes [] = [] := by
  rw [interpolate]

lemma interpolate_reference (h : Reference t n rest) :
    interpolate vars quotes t = (vars n).getD [] ++ interpolate vars quotes rest := by
  obtain ⟨c, cs, rfl⟩ := List.exists_cons_of_length_pos (Nat.zero_lt_of_lt h.length_lt)
  have href := reference?_eq_some_iff.mpr h
  rw [interpolate]
  split
  · rename_i n' rest' h'
    obtain ⟨rfl, rfl⟩ := Prod.mk.inj (Option.some.inj (href.symm.trans h'))
    rfl
  · rename_i h'
    cases href.symm.trans h'

lemma interpolate_of_not_reference (h : ∀ n rest, ¬ Reference (c :: cs) n rest) :
    interpolate vars quotes (c :: cs) =
      if quotes = true ∧ IsQuote c then
        if c ∈ cs then
          c :: (if c = '"' then interpolate vars false (cs.takeWhile (· ≠ c))
            else cs.takeWhile (· ≠ c)) ++
            c :: interpolate vars quotes (cs.drop ((cs.takeWhile (· ≠ c)).length + 1))
        else c :: cs
      else c :: interpolate vars quotes cs := by
  rw [interpolate]
  split
  · rename_i n rest h'
    exact absurd (reference?_eq_some_iff.mp h') (h n rest)
  · rfl

lemma not_reference_of_ne (hc : c ≠ '$') : ∀ n rest, ¬ Reference (c :: cs) n rest := by
  rintro n rest ⟨-, ⟨h, -⟩ | h⟩ <;> exact hc (List.cons.inj h).1

lemma interpolate_cons (h : ∀ n rest, ¬ Reference (c :: cs) n rest)
    (hc : quotes = true → ¬ IsQuote c) :
    interpolate vars quotes (c :: cs) = c :: interpolate vars quotes cs := by
  rw [interpolate_of_not_reference vars h, if_neg (not_and.mpr hc)]

lemma interpolate_append (hw : ∀ c ∈ w, c ≠ '$' ∧ (quotes = true → ¬ IsQuote c)) :
    interpolate vars quotes (w ++ rest) = w ++ interpolate vars quotes rest := by
  induction w with
  | nil => rfl
  | cons c w ih =>
    obtain ⟨⟨hsigil, hquote⟩, hw⟩ := List.forall_mem_cons.mp hw
    rw [List.cons_append, interpolate_cons vars (not_reference_of_ne hsigil) hquote, ih hw,
      List.cons_append]

lemma interpolate_ordinary (hw : ∀ c ∈ w, isSpecial c = false) :
    interpolate vars quotes (w ++ rest) = w ++ interpolate vars quotes rest := by
  refine interpolate_append vars fun c hc => ?_
  have hspecial := hw c hc
  refine ⟨?_, ?_⟩
  · rintro rfl
    cases hspecial
  · rintro - (rfl | rfl) <;> cases hspecial

lemma interpolate_closed (hc : IsQuote c) (hbody : c ∉ body) :
    interpolate vars true (c :: (body ++ c :: rest)) =
      c :: (if c = '"' then interpolate vars false body else body) ++
        c :: interpolate vars true rest := by
  rw [interpolate_of_not_reference vars (not_reference_of_ne hc.ne_sigil), if_pos ⟨rfl, hc⟩,
    if_pos (by simp), takeWhile_ne_append hbody]
  simp

lemma interpolate_unclosed (hc : IsQuote c) (hbody : c ∉ body) :
    interpolate vars true (c :: body) = c :: body := by
  rw [interpolate_of_not_reference vars (not_reference_of_ne hc.ne_sigil), if_pos ⟨rfl, hc⟩,
    if_neg hbody]

end

lemma not_reference_sigil {rest : Text} (hs : rest.head?.any isNameStart = false)
    (hb : rest.head? ≠ some '{') : ∀ n after, ¬ Reference ('$' :: rest) n after := by
  rintro n after ⟨hn, ⟨h, -⟩ | h⟩
  · obtain ⟨c, cs, rfl, hstart, -⟩ := hn.exists_cons
    obtain rfl := (List.cons.inj h).2
    simp [hstart] at hs
  · obtain rfl := (List.cons.inj h).2
    simp at hb

lemma not_reference_brace {n rest : Text} (hn : ∀ c ∈ n, isNameChar c)
    (hr : rest.head?.any isNameChar = false) (hnot : ¬ (IsName n ∧ rest.head? = some '}')) :
    ∀ m after, ¬ Reference ('$' :: '{' :: (n ++ rest)) m after := by
  rintro m after ⟨hm, ⟨h, -⟩ | h⟩
  · obtain ⟨c, cs, rfl, -, hne⟩ := hm.exists_cons
    exact hne (by simpa using (List.cons.inj (List.cons.inj h).2).1.symm)
  · have hsame : n ++ rest = m ++ '}' :: after := by simpa using h
    have hclose : ('}' :: after).head?.any isNameChar = false := by
      simp [not_isNameChar_brace]
    have htake := congrArg (List.takeWhile isNameChar) hsame
    rw [takeWhile_append_eq hn hr, takeWhile_append_eq hm.chars hclose] at htake
    subst htake
    exact hnot ⟨hm, by simp [List.append_cancel_left hsame]⟩

open Lexeme

-- Behind a sigil the scan does what the lexeme says, whether quotes count or not.
lemma interpolate_sigil (vars : Bindings) (quotes : Bool) {l : Lexeme} {rest : Text}
    (h : Munch false l rest) (hl : l.text.head? = some '$') :
    interpolate vars quotes (l.text ++ rest) =
      (l.resolve vars).text ++ interpolate vars quotes rest := by
  cases h with
  | @named n _ hn hr =>
    have href : Reference ('$' :: n ++ rest) n rest := ⟨hn, Or.inl ⟨rfl, hr⟩⟩
    rw [interpolate_reference vars href, resolve_of_ref rfl, name_named hn]
  | @braced n _ hn =>
    have href : Reference (['$', '{'] ++ n ++ ['}'] ++ rest) n rest := ⟨hn, Or.inr (by simp)⟩
    rw [interpolate_reference vars href, resolve_of_ref rfl, name_braced]
  | sigil hs hb =>
    exact interpolate_cons vars (not_reference_sigil hs hb) fun _ => by simp [IsQuote]
  | @brace n _ hn hr hnot =>
    have hordinary : ∀ c ∈ '{' :: n, isSpecial c = false := by
      refine List.forall_mem_cons.mpr ⟨rfl, fun c hc => ?_⟩
      exact ((isPlain_iff c).mp (isPlain_of_isNameChar (hn c hc))).2
    calc interpolate vars quotes ('$' :: ('{' :: n ++ rest))
        = '$' :: interpolate vars quotes ('{' :: n ++ rest) :=
          interpolate_cons vars (not_reference_brace hn hr hnot) fun _ => by simp [IsQuote]
      _ = '$' :: ('{' :: n ++ interpolate vars quotes rest) := by
          rw [interpolate_ordinary vars hordinary]
  | space _ hb => exact absurd (hb '$' (List.mem_of_head? hl)) (by decide)
  | plain _ hp => exact absurd (hp '$' (List.mem_of_head? hl)) (by decide)
  | unclosed _ hq =>
    obtain rfl := Option.some.inj hl
    exact absurd hq (by simp [IsQuote])
  | pipe | separator | single | double => simp at hl

lemma fill_eq_interpolate (vars : Bindings) (t : Text) :
    fill vars t = interpolate vars false t := by
  have hrefs := refs_references t
  rw [fill]
  generalize t.references = ls at hrefs
  induction hrefs with
  | nil => simp
  | sigil hl hhead _ ih => rw [interpolate_sigil vars false hl hhead, List.map_cons, join_cons, ih]
  | @between t rest ls ht _ ih =>
    have hcopy : ∀ c ∈ t, c ≠ '$' ∧ (false = true → ¬ IsQuote c) :=
      fun c hc => ⟨ne_of_mem_of_not_mem hc ht, by simp⟩
    rw [interpolate_append vars hcopy, List.map_cons, join_cons, ih]
    rfl

lemma interpolate_munch (vars : Bindings) {l : Lexeme} {rest : Text} (h : Munch false l rest) :
    interpolate vars true (l.text ++ rest) =
      (l.substitute vars).text ++ interpolate vars true rest := by
  cases h with
  | named hn hr => exact interpolate_sigil vars true (.named hn hr) rfl
  | braced hn => exact interpolate_sigil vars true (.braced hn) rfl
  | sigil hs hb => exact interpolate_sigil vars true (.sigil hs hb) rfl
  | brace hn hr hnot => exact interpolate_sigil vars true (.brace hn hr hnot) rfl
  | space _ hb =>
    refine interpolate_ordinary vars fun c hc => ?_
    by_contra hspecial
    have hblank := not_isBlank_of_isSpecial (eq_true_of_ne_false hspecial)
    rw [hb c hc] at hblank
    cases hblank
  | plain _ hp => exact interpolate_ordinary vars fun c hc => ((isPlain_iff c).mp (hp c hc)).2
  | pipe | separator =>
    exact interpolate_cons vars (not_reference_of_ne (by decide)) fun _ => by simp [IsQuote]
  | @single body _ hb =>
    simpa [substitute, resolve] using interpolate_closed vars (Or.inl rfl) hb
  | @double body _ hb =>
    simpa [substitute, value, Lexeme.inner, fill_eq_interpolate] using
      interpolate_closed vars (Or.inr rfl) hb
  | @unclosed q body _ hq hb =>
    simpa [substitute, resolve] using interpolate_unclosed vars hq hb

theorem expand_eq_interpolate (vars : Bindings) (line : Text) :
    line.expand vars = line.interpolate vars true ∧
    ∀ t n rest, reference? t = some (n, rest) ↔ Reference t n rest := by
  refine ⟨?_, fun t n rest => reference?_eq_some_iff⟩
  have hmunches := line.munches_lexemes
  rw [expand]
  generalize line.lexemes = ls at hmunches
  induction hmunches with
  | nil => simp
  | cons hl _ ih => rw [interpolate_munch vars hl, List.map_cons, join_cons, ih]

-- A value is not expanded again, a name is read as far as it goes, and the last quote is open.
example : interpolate (fun n => [(['x'], "<$x>".toList)].lookup n) true
    "$x-$xy '$x' \"$x'$x\" $1 $'$x".toList = "<$x>- '$x' \"<$x>'<$x>\" $1 $'$x".toList := by
  decide +kernel

end Text

end LineShell
