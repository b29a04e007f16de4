import LineShell.Proofs.Grep.WholeWord

namespace LineShell.Pattern

namespace Token

def byName (name : Text) : Text :=
  "\\N\x7b".toList ++ name ++ ['\x7d']

lemma ofText_append {cs : Text} (h : '\\' ∉ cs) (t : Text) :
    ofText (cs ++ t) = cs.map .char ++ ofText t := by
  induction cs with
  | nil => rfl
  | cons c cs ih =>
    obtain ⟨hc, hcs⟩ := not_or.mp (mt List.mem_cons.mpr h)
    rw [List.cons_append, ofText_cons_of_ne (Ne.symm hc), ih hcs]
    rfl

lemma ofText_byName {name : Text} (h : '\\' ∉ name) :
    ofText (byName name) = .escape 'N' :: .char '\x7b' :: (name.map .char ++ [.char '\x7d']) := by
  have hrest : ofText (name ++ ['\x7d']) = name.map .char ++ [.char '\x7d'] := ofText_append h _
  change .escape 'N' :: .char '\x7b' :: ofText (name ++ ['\x7d']) = _
  rw [hrest]

end Token

namespace Reading

variable {α β : Type} {r : Reader} {name : Text} {rest : List Token}

lemma bind_of_error {m : Reading α} {e : Rejection} (h : m r = .error e) (f : α → Reading β) :
    (m >>= f) r = .error e := by
  change (m r >>= fun p => f p.1 p.2) = _
  rw [h]
  rfl

lemma next_of_cons {t : Token} (hr : r.tokens = t :: rest) (hrest : rest.head? ≠ some .dangling) :
    next r = .ok (some t, { r with tokens := rest, pos := r.pos + t.text.length }) := by
  have hadvance := advance_cons hr
  rw [if_neg hrest] at hadvance
  rw [next_of_advance hadvance, hr]
  rfl

lemma head?_chars_ne (cs : Text) (x : Char) (ts : List Token) :
    (cs.map Token.char ++ .char x :: ts).head? ≠ some .dangling := by
  cases cs <;> simp

-- By induction on the rest of the name; `before` is what was read of it.
lemma takeUntilFrom_chars {x : Char} {kind : NameKind} {before cs : Text} {fuel : Nat}
    (hr : r.tokens = cs.map .char ++ .char x :: rest) (hx : x ∉ cs) (hne : before ++ cs ≠ [])
    (hrest : rest.head? ≠ some .dangling) (hfuel : cs.length < fuel) :
    takeUntilFrom x kind fuel before r =
      .ok (before ++ cs, { r with tokens := rest, pos := r.pos + cs.length + 1 }) := by
  induction cs generalizing r before fuel with
  | nil =>
    obtain ⟨fuel, rfl⟩ := Nat.exists_eq_add_of_lt hfuel
    have hbefore : before ≠ [] := by simpa using hne
    unfold takeUntilFrom
    rw [bind_of_ok (next_of_cons hr hrest)]
    dsimp only
    rw [if_pos rfl, if_neg (by simpa using hbefore), List.append_nil]
    rfl
  | cons c cs ih =>
    obtain ⟨fuel, rfl⟩ : ∃ k, fuel = k + 1 := ⟨fuel - 1, by simp at hfuel; omega⟩
    obtain ⟨hc, hcs⟩ := not_or.mp (mt List.mem_cons.mpr hx)
    unfold takeUntilFrom
    rw [bind_of_ok (next_of_cons hr (head?_chars_ne cs x rest))]
    dsimp only
    rw [if_neg (by simpa using Ne.symm hc), ih rfl hcs (by simp [Token.text]) (by simpa using hfuel)]
    simp [Token.text, Nat.add_assoc, Nat.add_comm 1]

lemma takeUntil_chars {x : Char} (kind : NameKind) (hr : r.tokens = name.map .char ++ .char x :: rest)
    (hx : x ∉ name) (hne : name ≠ []) (hrest : rest.head? ≠ some .dangling) :
    takeUntil x kind r =
      .ok (name, { r with tokens := rest, pos := r.pos + name.length + 1 }) := by
  unfold takeUntil
  rw [get_bind]
  refine takeUntilFrom_chars hr hx (by simpa using hne) hrest ?_
  rw [hr, List.length_append, List.length_map]
  omega

lemma namedEscape_chars (hr : r.tokens = .char '\x7b' :: (name.map .char ++ .char '\x7d' :: rest))
    (hbrace : '\x7d' ∉ name) (hne : name ≠ []) (hrest : rest.head? ≠ some .dangling) :
    namedEscape r =
      namedCode name { r with tokens := rest, pos := r.pos + name.length + 2 } := by
  have haccept : accept '\x7b' r = .ok (true,
      { r with tokens := name.map .char ++ .char '\x7d' :: rest, pos := r.pos + 1 }) := by
    have hadvance := advance_cons hr
    rw [if_neg (head?_chars_ne name '\x7d' rest)] at hadvance
    exact accept_eq_true_iff.mpr ⟨by rw [hr]; rfl, hadvance⟩
  unfold namedEscape
  rw [bind_of_ok haccept, if_pos rfl]
  dsimp only
  rw [bind_of_ok (takeUntil_chars .character rfl hbrace hne hrest)]
  simp [Nat.add_assoc, Nat.add_comm 1]

lemma sequence_escape {q : Reader} {k : Nat} {items : List Item} {mode : Mode}
    {verbose first : Bool} {x : Char} (hhead : r.tokens.head? = some (.escape x))
    (hadvance : advance r = .ok ((), q)) :
    sequence (k + 1) items mode verbose first r =
      (nodeEscape mode x >>= fun n =>
        sequence k (items ++ [.node n]) mode verbose first) q := by
  conv_lhs => unfold sequence
  rw [peek_bind, hhead]
  change (advance >>= _) r = _
  rw [bind_of_ok hadvance]

def behindName (known : Text → Option Char) (ignoreCase : Bool) (name : Text) : Reader :=
  { initial known ignoreCase [] with pos := name.length + 4 }

section

variable {known : Text → Option Char} {ignoreCase : Bool}

lemma namedCode_some {c : Char} (h : known name = some c) :
    namedCode name (behindName known ignoreCase name) =
      .ok (c.toNat, behindName known ignoreCase name) := by
  have hknown : (behindName known ignoreCase name).charNames name = some c := h
  unfold namedCode
  rw [get_bind, hknown]
  rfl

lemma namedCode_none (h : known name = none) :
    namedCode name (behindName known ignoreCase name) =
      .error (.flaw ⟨.undefinedCharacter name, some 0⟩) := by
  have hknown : (behindName known ignoreCase name).charNames name = none := h
  have hpos : (behindName known ignoreCase name).pos - (name.length + 4) = 0 := Nat.sub_self _
  unfold namedCode
  rw [get_bind, hknown, ← hpos]
  rfl

variable (known ignoreCase) in
lemma sequence_byName (hslash : '\\' ∉ name) (hbrace : '\x7d' ∉ name) (hne : name ≠ []) (k : Nat)
    (mode : Mode) :
    sequence (k + 2) [] mode false true (initial known ignoreCase (Token.ofText (Token.byName name))) =
      (namedCode name >>= fun code => pure [.char mode (.code code false)])
        (behindName known ignoreCase name) := by
  let q : Reader := { initial known ignoreCase
    (.char '\x7b' :: (name.map .char ++ [.char '\x7d'])) with pos := 2 }
  have hadvance : advance (initial known ignoreCase
      (.escape 'N' :: .char '\x7b' :: (name.map .char ++ [.char '\x7d']))) = .ok ((), q) := rfl
  have hnamed : namedEscape q = namedCode name (behindName known ignoreCase name) := by
    have hpos : 2 + name.length + 2 = name.length + 4 := by omega
    rw [namedEscape_chars rfl hbrace hne (by simp)]
    exact congrArg (fun p => namedCode name { initial known ignoreCase [] with pos := p }) hpos
  have hescape : nodeEscape mode 'N' =
      namedEscape >>= fun code => pure (.char mode (.code code false)) := rfl
  rw [Token.ofText_byName hslash, sequence_escape rfl hadvance, hescape, bind_assoc]
  cases hknown : known name with
  | none =>
    rw [namedCode_none hknown] at hnamed
    rw [bind_of_error hnamed, bind_of_error (namedCode_none hknown)]
  | some c =>
    rw [namedCode_some hknown] at hnamed
    rw [bind_of_ok hnamed, bind_of_ok (namedCode_some hknown)]
    rfl

variable (known ignoreCase) in
lemma choice_byName (hslash : '\\' ∉ name) (hbrace : '\x7d' ∉ name) (hne : name ≠ []) (k : Nat) :
    choice ignoreCase true (k + 2) (initial known ignoreCase (Token.ofText (Token.byName name))) =
      (namedCode name >>= fun code =>
        pure [.char (.ofFlags (initialFlags ignoreCase)) (.code code false)])
          (behindName known ignoreCase name) := by
  have hsequence := sequence_byName known ignoreCase hslash hbrace hne k
    (.ofFlags (initialFlags ignoreCase))
  unfold choice alternatives
  rw [get_bind]
  unfold alternativesFrom
  cases hknown : known name with
  | none =>
    rw [bind_of_error (namedCode_none hknown)] at hsequence ⊢
    exact bind_of_error hsequence _
  | some c =>
    rw [bind_of_ok (namedCode_some hknown)] at hsequence ⊢
    exact bind_of_ok hsequence _

end

end Reading

lemma Node.matchesAt_code {m : Mode} (hm : m.ignoreCase = false) {text : Array Char} {i : Nat}
    {c : Char} :
    (Node.char m (.code c.toNat false)).matchesAt text i = true ↔ text[i]? = some c := by
  unfold matchesAt run
  dsimp only
  cases text[i]? with
  | none => simp
  | some d => simp [CharTest.passes, hm, Char.toNat_inj]

namespace Search

open Reading

/-- A name in a pattern stands for its character, whatever that would mean by itself; a name that is
not known is a flaw. -/
theorem ofText_byName (known : Text → Option Char) (ignoreCase : Bool) {name : Text}
    (hslash : '\\' ∉ name) (hbrace : '\x7d' ∉ name) (hne : name ≠ []) :
    (∀ c, known name = some c →
      ∃ s, ofText known ignoreCase (Token.byName name) = .ok s ∧
        s.node = .char (.ofFlags (initialFlags ignoreCase)) (.code c.toNat false) ∧
        (ignoreCase = false → ∀ line, s.finds line = true ↔ c ∈ line)) ∧
    (known name = none → ofText known ignoreCase (Token.byName name) =
      .error (.flaw ⟨.undefinedCharacter name, some 0⟩)) := by
  have hhead : (Token.ofText (Token.byName name)).head? ≠ some .dangling := by
    rw [Token.ofText_byName hslash]
    simp
  have hlength : (Token.ofText (Token.byName name)).length + 1 = name.length + 2 + 2 := by
    rw [Token.ofText_byName hslash]
    simp
  have hchoice := choice_byName known ignoreCase hslash hbrace hne (name.length + 2)
  rw [← hlength] at hchoice
  refine ⟨fun c hc => ?_, fun hnone => ?_⟩
  · rw [bind_of_ok (namedCode_some hc)] at hchoice
    have hpattern := pattern_eq_ok_iff.mpr ⟨hhead, _, hchoice, alphabet_initialFlags ignoreCase,
      ⟨rfl, by simp [behindName, initial]⟩, rfl⟩
    refine ⟨_, (ofText_eq_ok_iff_of_ok hpattern).mpr ⟨rfl, rfl, rfl⟩, rfl, ?_⟩
    rintro rfl line
    rw [finds_iff, List.mem_iff_getElem?]
    constructor
    · rintro ⟨i, -, -, hi⟩
      exact ⟨i, by simpa using (Node.matchesAt_code rfl).mp hi⟩
    · rintro ⟨i, hi⟩
      obtain ⟨hlt, -⟩ := List.getElem?_eq_some_iff.mp hi
      exact ⟨i, hlt.le, rfl, (Node.matchesAt_code rfl).mpr (by simpa using hi)⟩
  · rw [bind_of_error (namedCode_none hnone), choice_initial known] at hchoice
    refine ofText_of_error ?_
    unfold pattern
    rw [bind_of_ok (checkNext_of_ne hhead), get_bind, bind_of_error hchoice]

end Search

end LineShell.Pattern
