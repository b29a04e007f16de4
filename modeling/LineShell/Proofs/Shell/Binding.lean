import LineShell.Proofs.Execution.Variables
import LineShell.Proofs.Lexeme.Name
import LineShell.Proofs.Lexeme.Verbatim
import LineShell.Proofs.Shell.Line

namespace LineShell

/-- A name that starts with a numeral which is no decimal digit, such as a superscript. -/
structure IsNumeralName (n : Text) : Prop where
  start : n.head?.any (fun c => Text.isNumeral c && !Text.isDecimal c) = true
  chars : ∀ c ∈ n, isNameChar c

lemma not_isNumeral_of_isNameStart {c : Char} (h : isNameStart c) : Text.isNumeral c = false := by
  simp only [isNameStart, Bool.or_eq_true, beq_iff_eq] at h
  rcases h with h | rfl
  · exact Text.not_isNumeral_of_isLetter h
  · decide +kernel

lemma not_isDecimal_of_isNameStart {c : Char} (h : isNameStart c) : Text.isDecimal c = false := by
  by_contra hdecimal
  have hnumeral := Text.isNumeral_of_isDecimal (eq_true_of_ne_false hdecimal)
  rw [not_isNumeral_of_isNameStart h] at hnumeral
  exact Bool.false_ne_true hnumeral

lemma IsName.not_isNumeralName {n : Text} (h : IsName n) : ¬ IsNumeralName n := by
  rintro ⟨hstart, -⟩
  obtain ⟨c, cs, rfl, hc, -⟩ := h.exists_cons
  simp [not_isNumeral_of_isNameStart hc] at hstart

namespace Command

lemma binds_iff {n v : Text} : Binds (n ++ '=' :: v) n v ↔ IsName n ∨ IsNumeralName n := by
  constructor
  · rintro ⟨-, hstart, hchars⟩
    obtain ⟨c, cs, rfl⟩ := List.exists_cons_of_ne_nil (l := n) (by rintro rfl; simp at hstart)
    have hc : Text.isWordChar c ∧ Text.isDecimal c = false := by simpa using hstart
    by_cases hs : isNameStart c
    · exact Or.inl ⟨by simpa using hs, hchars⟩
    · have hnumeral : Text.isNumeral c := by
        simp_all [isNameStart, Text.isWordChar, Text.isAlphanumeric]
      exact Or.inr ⟨by simp [hnumeral, hc.2], hchars⟩
  · rintro (h | h)
    · obtain ⟨c, cs, rfl, hc, -⟩ := h.exists_cons
      refine ⟨rfl, ?_, h.chars⟩
      have hword : Text.isWordChar c := h.chars c List.mem_cons_self
      simp [hword, not_isDecimal_of_isNameStart hc]
    · refine ⟨rfl, ?_, h.chars⟩
      cases n with
      | nil => simpa using h.start
      | cons c cs =>
        have hword : Text.isWordChar c := h.chars c List.mem_cons_self
        have hdecimal := h.start
        simp_all

lemma ofWords_nil_eq_assign_iff {t n v : Text} :
    ofWords t [] = .ok (.assign n v) ↔ Binds t n v := by
  rw [← assignment?_eq_some_iff]
  cases h : assignment? t with
  | none => simp [ofWords, h]
  | some b => simp [ofWords, h, Prod.ext_iff]

def Assigned (n v : Text) : Prop :=
  Lexeme.parse [⟨.plain, n ++ '=' :: v⟩] = ⟨[(.assign n v, 1)], none, 1⟩

end Command

lemma Lexeme.parse_word (t : Text) :
    Lexeme.parse [⟨.plain, t⟩] = match Command.ofWords t [] with
      | .ok k => ⟨[(k, 1)], none, 1⟩
      | .error e => ⟨[], some e, 1⟩ := by
  have hread : WordRun.read [⟨.plain, t⟩] = ⟨[t], []⟩ := rfl
  rw [Lexeme.parse, Parse.lexemesFrom_end (by rw [hread]), hread]
  cases h : Command.ofWords t [] <;> simp [h]

lemma Command.assigned_iff {n v : Text} : Assigned n v ↔ IsName n ∨ IsNumeralName n := by
  rw [← binds_iff, ← ofWords_nil_eq_assign_iff, Assigned, Lexeme.parse_word]
  cases ofWords (n ++ '=' :: v) [] <;> simp

theorem assigned_iff_referred (n v : Text) :
    ((Command.Assigned n v ↔ Text.RefersTo ('$' :: n) n) ↔ ¬ IsNumeralName n) ∧
    (Text.RefersTo ('$' :: n) n → Command.Assigned n v) ∧
    (Text.RefersTo (['$', '{'] ++ n ++ ['}']) n ↔ Text.RefersTo ('$' :: n) n) := by
  rw [Command.assigned_iff, Text.refersTo_named_iff, Text.refersTo_braced_iff]
  refine ⟨⟨fun h hnumeral => ?_, fun h => ?_⟩, Or.inl, Iff.rfl⟩
  · have hname := h.mp (Or.inr hnumeral)
    exact hname.not_isNumeralName hnumeral
  · exact or_iff_left h

-- A superscript is a word character and no decimal digit, which is all that an assignment asks for; a
-- reference asks for a letter.
theorem assigned_superscript :
    ¬ (Command.Assigned ['²'] ['1'] ↔ Text.RefersTo ['$', '²'] ['²']) := by
  have hnumeral : IsNumeralName ['²'] := by
    refine ⟨by decide +kernel, List.forall_mem_singleton.mpr ?_⟩
    decide +kernel
  intro h
  have hname := Text.refersTo_named_iff.mp (h.mp (Command.assigned_iff.mpr (Or.inr hnumeral)))
  exact hname.not_isNumeralName hnumeral

namespace Lexeme

variable {n : Text}

lemma munches_assignment (hn : IsName n) (v : Text) :
    Munches false (n ++ '=' :: v.verbatim) (⟨.plain, n ++ ['=']⟩ :: verbatimFrom [] v) := by
  have hvalue := munches_verbatimFrom List.not_mem_nil v (.nil : Munches false [] [])
  have hplain : ∀ c ∈ n ++ ['='], isPlain c := by
    intro c hc
    rcases List.mem_append.mp hc with hc | hc
    · exact isPlain_of_isNameChar (hn.chars c hc)
    · rw [List.mem_singleton.mp hc]
      decide
  have hquote : ∀ t : Text, ('\'' :: t).head?.any isPlain = false := fun _ => rfl
  have hcut := Munches.cons (.plain (by simp) hplain (hquote _)) hvalue
  simpa [Text.verbatim] using hcut

lemma fuse_assignment (n v : Text) :
    fuse (⟨.plain, n ++ ['=']⟩ :: verbatimFrom [] v) = [⟨.plain, n ++ '=' :: v⟩] := by
  have hend : ∀ k ks, fuse [] = k :: ks → k.kind ≠ .plain := by simp [fuse]
  have hvalue := fuse_verbatimFrom [] v hend
  rw [List.append_nil] at hvalue
  change absorb _ (fuse (verbatimFrom [] v)) = _
  rw [hvalue, absorb_plain rfl rfl]
  simp [value, fuse]

end Lexeme

lemma Text.tokens_assignment {n : Text} (vars : Bindings) (hn : IsName n) (v : Text) :
    tokens vars (n ++ '=' :: v.verbatim) = [⟨.plain, n ++ '=' :: v⟩] := by
  have hmunches := Lexeme.munches_assignment hn v
  have hsame : ∀ l ∈ (⟨.plain, n ++ ['=']⟩ :: Lexeme.verbatimFrom [] v : List Lexeme),
      l.substitute vars = l :=
    List.forall_mem_cons.mpr ⟨rfl, Lexeme.substitute_verbatimFrom vars [] v⟩
  rw [tokens, expand_eq_self hmunches hsame, lexemes_of_munches hmunches, Lexeme.fuse_assignment]

namespace Shell

lemma execute_assign {n : Text} (w : World) (c : Context) (hn : IsName n) (v : Text) :
    (execute w c (n ++ '=' :: v.verbatim)).outcome = .ok [] ∧
    (execute w c (n ++ '=' :: v.verbatim)).calls = [] ∧
    (execute w c (n ++ '=' :: v.verbatim)).context = c.set n v := by
  have hassigned : Command.Assigned n v := Command.assigned_iff.mpr (Or.inl hn)
  have hparse : parse c (n ++ '=' :: v.verbatim) = ⟨[(.assign n v, 1)], none, 1⟩ := by
    rw [parse, Text.tokens_assignment _ hn, hassigned]
  have hcommands : commands c (n ++ '=' :: v.verbatim) = [.assign n v] := by
    rw [commands, hparse]
    rfl
  obtain ⟨hcontext, hcalls, houtcome⟩ :=
    execute_of_parses (w := w) (congrArg Parse.fault hparse)
  rw [hcommands] at hcontext hcalls houtcome
  exact ⟨houtcome, hcalls, hcontext⟩

theorem execute_assignment_expand (w : World) (c : Context) (n v : Text)
    (hn : Text.RefersTo ('$' :: n) n) :
    let r := execute w c (n ++ '=' :: v.verbatim)
    r.outcome = .ok [] ∧ r.calls = [] ∧ r.context.cwd = c.cwd ∧
    r.context.get? n = some v ∧ (∀ m, m ≠ n → r.context.get? m = c.get? m) ∧
    ∀ s, Text.expand r.context.get? (['$', '{'] ++ n ++ ['}'] ++ s) =
        v ++ Text.expand r.context.get? s ∧
      (s.head?.any isNameChar = false →
        Text.expand r.context.get? ('$' :: n ++ s) = v ++ Text.expand r.context.get? s) := by
  intro r
  have hname := hn.isName
  obtain ⟨houtcome, hcalls, hcontext⟩ := execute_assign w c hname v
  have hself : r.context.get? n = some v := by
    rw [hcontext]
    exact Variables.get?_set_self c.vars n v
  refine ⟨houtcome, hcalls, ?_, hself, fun m hm => ?_, fun s => ⟨?_, fun hs => ?_⟩⟩
  · rw [hcontext]
    rfl
  · rw [hcontext]
    exact Variables.get?_set_of_ne hm c.vars v
  · rw [Text.expand_braced _ hname, hself, Option.getD_some]
  · rw [Text.expand_named _ hname hs, hself, Option.getD_some]

-- The value holds an apostrophe and what looks like a reference to the variable itself.
theorem execute_assignment_expand_apostrophe :
    let w : World := { processCwd := ['/'], home := none }
    let c : Context := ⟨['/'], ⟨[(['é'], ['0']), (['x'], ['y'])]⟩⟩
    let r := execute w c "é='it'\"'\"'s $é'".toList
    Text.RefersTo ['$', 'é'] ['é'] ∧ ['-'].head?.any isNameChar = false ∧
    r.outcome = .ok [] ∧ r.context.get? ['é'] = some "it's $é".toList ∧
    r.context.get? ['x'] = some ['y'] ∧
    Text.expand r.context.get? ['$', '{', 'é', '}', '1'] = "it's $é1".toList ∧
    Text.expand r.context.get? ['$', 'é', '-'] = "it's $é-".toList := by
  intro w c
  have hname : Text.RefersTo ['$', 'é'] ['é'] :=
    ⟨⟨.ref, ['$', 'é']⟩, by decide +kernel, rfl, rfl⟩
  have hdash : ['-'].head?.any isNameChar = false := by decide +kernel
  have hline : "é='it'\"'\"'s $é'".toList = ['é'] ++ '=' :: Text.verbatim "it's $é".toList := by
    decide +kernel
  rw [hline]
  obtain ⟨houtcome, -, -, hself, hothers, hexpand⟩ :=
    execute_assignment_expand w c ['é'] "it's $é".toList hname
  refine ⟨hname, hdash, houtcome, hself, hothers ['x'] (by decide), ?_, ?_⟩
  · exact (hexpand ['1']).1.trans (by decide +kernel)
  · exact ((hexpand ['-']).2 hdash).trans (by decide +kernel)

end Shell

end LineShell
