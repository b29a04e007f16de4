import LineShell.Proofs.Command.Online

/-! Where a line goes wrong. As long as a line can still be completed to one that parses, nothing is
wrong with it but its end; otherwise there is a first lexeme behind which it no longer can. -/

namespace LineShell

open Grammar

/-- The lexeme that a fault is about. For an assignment with arguments it is the first argument. -/
def ParseFault.offender : ParseFault → Option Lexeme
  | .argumentAfterAssignment a => some ⟨.plain, a⟩
  | e => e.lexeme

namespace Command

lemma exists_ofWords_nil (w : Text) : ∃ c, ofWords w [] = .ok c := by
  cases hw : assignment? w with
  | none => exact ⟨.simple w [], by simp [ofWords, hw]⟩
  | some nv => exact ⟨.assign nv.1 nv.2, by simp [ofWords, hw]⟩

end Command

namespace Parse

variable {afterPipe : Bool} {n : Nat} {ls ps : List Lexeme}

lemma not_stopped_of_fault {p : Parse} (h : p.fault = none) : ¬ Stopped p := by
  rintro ⟨e, he, -⟩
  rw [h] at he
  cases he

lemma fault_ofTurn_ok (k : Nat) (next : Parse) (cs : List Command) :
    (ofTurn k next (.ok cs)).fault = next.fault := rfl

lemma fault_of_ofWords_error (h : ∀ l ∈ ps, l.kind = .plain ∨ l.kind = .space) {w : Text}
    {ws : List Text} {e : ParseFault} (hw : wordsOf ps = w :: ws)
    (herr : Command.ofWords w ws = .error e) (more : List Lexeme) :
    (lexemesFrom afterPipe afterPipe n (ps ++ more)).fault ≠ none := by
  have hturn : ∀ vs marker, turn afterPipe (w :: (ws ++ vs)) marker = .error e := by
    intro vs marker
    obtain ⟨hassign, a, us, rfl, he⟩ := Command.ofWords_eq_error_iff.mp herr
    exact map_eq_error_iff.mpr (Command.ofWords_eq_error_iff.mpr ⟨hassign, a, us ++ vs, rfl, he⟩)
  have hrun : ∀ qs : List Lexeme, (∀ l ∈ qs, l.kind = .plain ∨ l.kind = .space) →
      ∀ l ∈ ps ++ qs, l.kind = .plain ∨ l.kind = .space :=
    fun qs hqs => List.forall_mem_append.mpr ⟨h, hqs⟩
  have hwords : ∀ qs, wordsOf (ps ++ qs) = w :: (ws ++ wordsOf qs) := by
    intro qs
    rw [wordsOf_append, hw, List.cons_append]
  induction more using runInduction with
  | last qs hqs =>
    rw [lexemesFrom_last (hrun qs hqs), hwords, hturn]
    simp [ofTurn]
  | marked qs m rest hqs hm _ =>
    rw [← List.append_assoc, lexemesFrom_marked (hrun qs hqs) hm, hwords, hturn]
    simp [ofTurn]
  | stray qs x rest hqs hplain hspace hx =>
    rw [← List.append_assoc, lexemesFrom_stray (hrun qs hqs) hplain hspace hx]
    simp

lemma not_stopped_of_append {more : List Lexeme}
    (h : (lexemesFrom afterPipe afterPipe n (ls ++ more)).fault = none) :
    ¬ Stopped (lexemesFrom afterPipe afterPipe n ls) := by
  induction ls using runInduction generalizing afterPipe n with
  | last ps hps =>
    rintro ⟨e, he, hne⟩
    rw [lexemesFrom_last hps] at he
    cases hturn : turn afterPipe (wordsOf ps) none with
    | ok cs => simp [hturn, ofTurn] at he
    | error e' =>
      rw [hturn] at he
      obtain rfl := Option.some.inj he
      rcases turn_eq_error hturn with ⟨-, -, rfl⟩ | ⟨k, -, -, hk, -⟩ | ⟨w, ws, hw, herr⟩
      · exact hne rfl
      · cases hk
      · exact fault_of_ofWords_error hps hw herr more h
  | marked ps m rest hps hm ih =>
    rw [List.append_assoc, List.cons_append, lexemesFrom_marked hps hm] at h
    rw [lexemesFrom_marked hps hm]
    cases hturn : turn afterPipe (wordsOf ps) (some m) with
    | error e => simp [hturn, ofTurn] at h
    | ok cs =>
      rw [hturn, fault_ofTurn_ok] at h
      exact ih h
  | stray ps x rest hps hplain hspace hx =>
    rw [List.append_assoc, List.cons_append, lexemesFrom_stray hps hplain hspace hx] at h
    cases h

lemma fault_append_word
    (h : (lexemesFrom afterPipe afterPipe n ls).fault = some (.missingAfterPipe none)) :
    (lexemesFrom afterPipe afterPipe n (ls ++ [⟨.plain, ['a']⟩])).fault = none := by
  induction ls using runInduction generalizing afterPipe n with
  | last ps hps =>
    have hrun : ∀ l ∈ ps ++ [⟨.plain, ['a']⟩], l.kind = .plain ∨ l.kind = .space :=
      List.forall_mem_append.mpr ⟨hps, List.forall_mem_singleton.mpr (Or.inl rfl)⟩
    have hword : Command.ofWords ['a'] [] = .ok (.simple ['a'] []) := by decide +kernel
    rw [lexemesFrom_last hps] at h
    cases hturn : turn afterPipe (wordsOf ps) none with
    | ok cs => simp [hturn, ofTurn] at h
    | error e =>
      rw [hturn] at h
      obtain rfl := Option.some.inj h
      rcases turn_eq_error hturn with ⟨hw, -⟩ | ⟨k, -, -, hk, -⟩ | ⟨w, ws, -, herr⟩
      · rw [lexemesFrom_last hrun, wordsOf_append, hw, List.nil_append]
        simp [wordsOf, unspaced, turn, hword, ofTurn, Except.map]
      · cases hk
      · obtain ⟨-, a, vs, -, ha⟩ := Command.ofWords_eq_error_iff.mp herr
        cases ha
  | marked ps m rest hps hm ih =>
    rw [lexemesFrom_marked hps hm] at h
    rw [List.append_assoc, List.cons_append, lexemesFrom_marked hps hm]
    cases hturn : turn afterPipe (wordsOf ps) (some m) with
    | error e =>
      rw [hturn] at h
      exact absurd (Option.some.inj h) (turn_ne_missing hturn)
    | ok cs =>
      rw [hturn, fault_ofTurn_ok] at h
      exact ih h
  | stray ps x rest hps hplain hspace hx =>
    rw [lexemesFrom_stray hps hplain hspace hx] at h
    cases h

-- Before the first argument there is an assignment and nothing else, and that is a command.
lemma exists_argument (h : ∀ l ∈ ps, l.kind = .plain ∨ l.kind = .space) {w : Text}
    {ws : List Text} {e : ParseFault} (hw : wordsOf ps = w :: ws)
    (herr : Command.ofWords w ws = .error e) :
    ∃ pre l post, ps = pre ++ l :: post ∧ e.offender = some l ∧
      ¬ Stopped (lexemesFrom afterPipe afterPipe n pre) ∧
      Stopped (lexemesFrom afterPipe afterPipe n (pre ++ [l])) := by
  obtain ⟨hassign, a, vs, rfl, rfl⟩ := Command.ofWords_eq_error_iff.mp herr
  obtain ⟨k, ks, hk, rfl, hks⟩ := List.map_eq_cons_iff.mp hw
  obtain ⟨l, ls, rfl, rfl, -⟩ := List.map_eq_cons_iff.mp hks
  obtain ⟨before, rest, rfl, hbefore, hkind, hrest⟩ := List.filter_eq_cons_iff.mp hk
  obtain ⟨between, post, rfl, hbetween, hlkind, -⟩ := List.filter_eq_cons_iff.mp hrest
  have hsplit : before ++ k :: (between ++ l :: post) = (before ++ k :: between) ++ l :: post := by
    rw [List.append_assoc, List.cons_append]
  rw [hsplit] at h ⊢
  obtain ⟨hpre, hl⟩ := List.forall_mem_append.mp h
  have hplain : l.kind = .plain := (hl l (by simp)).resolve_right (by simpa using hlkind)
  have hfirst : wordsOf (before ++ k :: between) = [k.text] := by
    have hblank := List.filter_eq_nil_iff.mpr hbefore
    have hblank' := List.filter_eq_nil_iff.mpr hbetween
    rw [wordsOf, unspaced_append, unspaced_cons (by simpa using hkind), unspaced, unspaced, hblank,
      hblank']
    rfl
  have hsecond : wordsOf (before ++ k :: between ++ [l]) = [k.text, l.text] := by
    rw [wordsOf_append, hfirst, wordsOf, unspaced_cons (by simp [hplain])]
    rfl
  have hrun : ∀ x ∈ before ++ k :: between ++ [l], x.kind = .plain ∨ x.kind = .space :=
    List.forall_mem_append.mpr ⟨hpre, List.forall_mem_singleton.mpr (Or.inl hplain)⟩
  refine ⟨before ++ k :: between, l, post, rfl, congrArg some (by rw [← hplain]), ?_, ?_⟩
  · obtain ⟨c, hc⟩ := Command.exists_ofWords_nil k.text
    apply not_stopped_of_fault
    rw [lexemesFrom_last hpre, hfirst, turn, hc]
    rfl
  · have hargument : Command.ofWords k.text [l.text] = .error (.argumentAfterAssignment l.text) :=
      Command.ofWords_eq_error_iff.mpr ⟨hassign, l.text, [], rfl, rfl⟩
    rw [lexemesFrom_last hrun, hsecond, turn, hargument]
    exact ⟨_, rfl, by simp⟩

lemma exists_offender_marked (h : ∀ l ∈ ps, l.kind = .plain ∨ l.kind = .space) {m : Lexeme}
    (hm : m.isMarker = true) (rest : List Lexeme) {e : ParseFault}
    (hturn : turn afterPipe (wordsOf ps) (some m) = .error e) :
    ∃ pre l post, ps ++ m :: rest = pre ++ l :: post ∧ e.offender = some l ∧
      ¬ Stopped (lexemesFrom afterPipe afterPipe n pre) ∧
      Stopped (lexemesFrom afterPipe afterPipe n (pre ++ [l])) := by
  have hend : Stopped (lexemesFrom afterPipe afterPipe n (ps ++ [m])) := by
    rw [lexemesFrom_marked h hm, hturn]
    exact ⟨e, rfl, turn_ne_missing hturn⟩
  rcases turn_eq_error hturn with ⟨hw, rfl, rfl⟩ | ⟨k, hw, rfl, hk, -, rfl⟩ | ⟨w, ws, hw, herr⟩
  · refine ⟨ps, m, rest, rfl, rfl, ?_, hend⟩
    rw [lexemesFrom_last h, hw]
    rintro ⟨e, he, hne⟩
    exact hne (Option.some.inj he).symm
  · obtain rfl := Option.some.inj hk
    refine ⟨ps, m, rest, rfl, rfl, not_stopped_of_fault ?_, hend⟩
    rw [lexemesFrom_last h, hw]
    rfl
  · obtain ⟨pre, l, post, hsplit, hl, hgo, hend⟩ := exists_argument h hw herr
    refine ⟨pre, l, post ++ m :: rest, ?_, hl, hgo, hend⟩
    rw [hsplit, List.append_assoc, List.cons_append]

lemma exists_offender {e : ParseFault}
    (hkinds : ∀ l ∈ ls, l.kind = .plain ∨ l.kind = .space ∨ l.kind = .pipe ∨ l.kind = .separator)
    (h : (lexemesFrom afterPipe afterPipe n ls).fault = some e)
    (hstop : e ≠ .missingAfterPipe none) :
    ∃ pre l post, ls = pre ++ l :: post ∧ e.offender = some l ∧
      ¬ Stopped (lexemesFrom afterPipe afterPipe n pre) ∧
      Stopped (lexemesFrom afterPipe afterPipe n (pre ++ [l])) := by
  induction ls using runInduction generalizing afterPipe n with
  | last ps hps =>
    rw [lexemesFrom_last hps] at h
    cases hturn : turn afterPipe (wordsOf ps) none with
    | ok cs => simp [hturn, ofTurn] at h
    | error e' =>
      rw [hturn] at h
      obtain rfl := Option.some.inj h
      rcases turn_eq_error hturn with ⟨-, -, rfl⟩ | ⟨k, -, -, hk, -⟩ | ⟨w, ws, hw, herr⟩
      · exact absurd rfl hstop
      · cases hk
      · exact exists_argument hps hw herr
  | marked ps m rest hps hm ih =>
    rw [lexemesFrom_marked hps hm] at h
    cases hturn : turn afterPipe (wordsOf ps) (some m) with
    | error e' =>
      rw [hturn] at h
      obtain rfl := Option.some.inj h
      exact exists_offender_marked hps hm rest hturn
    | ok cs =>
      rw [hturn, fault_ofTurn_ok] at h
      have hrest := List.forall_mem_cons.mp (List.forall_mem_append.mp hkinds).2
      obtain ⟨pre, l, post, rfl, hl, hgo, hend⟩ := ih hrest.2 h
      refine ⟨ps ++ m :: pre, l, post, ?_, hl, ?_, ?_⟩
      · rw [List.append_assoc, List.cons_append]
      · rw [lexemesFrom_marked hps hm, hturn]
        exact hgo
      · rw [List.append_assoc, List.cons_append, lexemesFrom_marked hps hm, hturn]
        exact hend
  | stray ps x rest hps hplain hspace hx =>
    -- A lexeme that fits nowhere is reported before the words in front of it are looked at, so only
    -- without such lexemes is the first fault the one that is found.
    have hnot : ¬ (x.kind = .pipe ∨ x.kind = .separator) := by simp [← isMarker_iff, hx]
    rcases hkinds x (by simp) with hk | hk | hk
    · exact absurd hk hplain
    · exact absurd hk hspace
    · exact absurd hk hnot

end Parse

namespace Lexeme

open Parse

def Viable (ls : List Lexeme) : Prop :=
  ∃ more, (parse (ls ++ more)).fault = none

/-- What a line is to be blamed for: no lexeme if it can still be completed, and otherwise the first
one behind which it cannot. -/
structure Blames (ls : List Lexeme) (found : Option Lexeme) : Prop where
  none_iff : found = none ↔ Viable ls
  first : ¬ Viable ls →
    ∃ pre l post, found = some l ∧ ls = pre ++ l :: post ∧ Viable pre ∧ ¬ Viable (pre ++ [l])

lemma viable_iff (ls : List Lexeme) : Viable ls ↔ ¬ Stopped (parse ls) := by
  constructor
  · rintro ⟨more, hmore⟩
    exact not_stopped_of_append hmore
  · intro hgo
    cases hfault : (parse ls).fault with
    | none => exact ⟨[], by rw [List.append_nil, hfault]⟩
    | some e =>
      have he : e = .missingAfterPipe none := by
        by_contra hne
        exact hgo ⟨e, hfault, hne⟩
      exact ⟨_, fault_append_word (he ▸ hfault)⟩

lemma blames_offender {ls : List Lexeme} {e : ParseFault}
    (hkinds : ∀ l ∈ ls, l.kind = .plain ∨ l.kind = .space ∨ l.kind = .pipe ∨ l.kind = .separator)
    (h : (parse ls).fault = some e) : Blames ls e.offender := by
  by_cases hend : e = .missingAfterPipe none
  · have hviable : Viable ls := by
      rw [viable_iff]
      rintro ⟨e', he', hne⟩
      exact hne (Option.some.inj (he'.symm.trans h) ▸ hend)
    exact ⟨iff_of_true (by rw [hend]; rfl) hviable, fun hnot => absurd hviable hnot⟩
  · have hdead : ¬ Viable ls := fun hv => (viable_iff ls).mp hv ⟨e, h, hend⟩
    obtain ⟨pre, l, post, hsplit, hl, hgo, hstop⟩ := exists_offender hkinds h hend
    refine ⟨iff_of_false (by simp [hl]) hdead, fun _ => ⟨pre, l, post, hl, hsplit, ?_, ?_⟩⟩
    · exact (viable_iff pre).mpr hgo
    · exact fun hv => (viable_iff _).mp hv hstop

theorem parse_fault_blames_iff {ls : List Lexeme} {e : ParseFault}
    (hkinds : ∀ l ∈ ls, l.kind = .plain ∨ l.kind = .space ∨ l.kind = .pipe ∨ l.kind = .separator)
    (h : (parse ls).fault = some e) :
    (Blames ls e.lexeme ↔ ∀ a, e ≠ .argumentAfterAssignment a) ∧ Blames ls e.offender := by
  have hblames := blames_offender hkinds h
  refine ⟨⟨?_, fun hne => ?_⟩, hblames⟩
  · rintro hlexeme a rfl
    have hviable := hlexeme.none_iff.mp rfl
    exact absurd (hblames.none_iff.mpr hviable) (by simp [ParseFault.offender])
  · cases e with
    | argumentAfterAssignment a => exact absurd rfl (hne a)
    | unexpected | missingAfterPipe | missingBeforePipe => exact hblames

theorem parse_fault_blames_separator :
    let ls : List Lexeme := [⟨.plain, "echo".toList⟩, ⟨.space, [' ']⟩, ⟨.pipe, ['|']⟩,
      ⟨.space, [' ']⟩, ⟨.separator, [';']⟩, ⟨.plain, "wc".toList⟩]
    (∀ l ∈ ls, l.kind = .plain ∨ l.kind = .space ∨ l.kind = .pipe ∨ l.kind = .separator) ∧
    (parse ls).fault = some (.missingAfterPipe (some ⟨.separator, [';']⟩)) ∧
    Blames ls (some ⟨.separator, [';']⟩) := by
  intro ls
  have hkinds : ∀ l ∈ ls, l.kind = .plain ∨ l.kind = .space ∨ l.kind = .pipe ∨
      l.kind = .separator := by decide +kernel
  have hfault : (parse ls).fault = some (.missingAfterPipe (some ⟨.separator, [';']⟩)) := by
    decide +kernel
  exact ⟨hkinds, hfault, (parse_fault_blames_iff hkinds hfault).1.mpr (by simp)⟩

-- An argument behind an assignment cannot be mended, and no lexeme is named.
theorem parse_fault_blames_nothing :
    let ls : List Lexeme := [⟨.plain, "x=1".toList⟩, ⟨.space, [' ']⟩, ⟨.plain, ['a']⟩]
    (parse ls).fault = some (.argumentAfterAssignment ['a']) ∧
    (ParseFault.argumentAfterAssignment ['a']).lexeme = none ∧ ¬ Viable ls ∧
    ¬ Blames ls (ParseFault.argumentAfterAssignment ['a']).lexeme := by
  intro ls
  have hfault : (parse ls).fault = some (.argumentAfterAssignment ['a']) := by decide +kernel
  have hdead : ¬ Viable ls := fun hv => (viable_iff ls).mp hv ⟨_, hfault, by simp⟩
  exact ⟨hfault, rfl, hdead, fun h => hdead (h.none_iff.mp rfl)⟩

end Lexeme

end LineShell
