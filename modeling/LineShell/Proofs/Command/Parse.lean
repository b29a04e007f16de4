import LineShell.Proofs.Command.Grammar

namespace LineShell

namespace WordRun

open Grammar

lemma read_split (ls : List Lexeme) : ∃ ps, ls = ps ++ (read ls).rest ∧
    (∀ l ∈ ps, l.kind = .plain ∨ l.kind = .space) ∧
    (read ls).words = (unspaced ps).map (·.text) ∧
    ∀ m rest, (read ls).rest = m :: rest → m.kind ≠ .plain ∧ m.kind ≠ .space := by
  induction ls with
  | nil => exact ⟨[], by simp [read]⟩
  | cons l ls ih =>
    obtain ⟨ps, hsplit, hkinds, hwords, hrest⟩ := ih
    cases hk : l.kind with
    | space =>
      have hread : read (l :: ls) = read ls := by simp [read, hk]
      rw [hread]
      exact ⟨l :: ps, by simp [← hsplit], by simpa [hk] using hkinds,
        by simp [unspaced_cons_space hk, hwords], hrest⟩
    | plain =>
      have hread : read (l :: ls) = ⟨l.value :: (read ls).words, (read ls).rest⟩ := by
        simp [read, hk]
      rw [hread]
      exact ⟨l :: ps, by simp [← hsplit], by simpa [hk] using hkinds,
        by simp [unspaced_cons (l := l) (by simp [hk]), hwords, hk, Lexeme.value], hrest⟩
    | ref | single | double | pipe | separator =>
      have hread : read (l :: ls) = ⟨[], l :: ls⟩ := by simp [read, hk]
      rw [hread]
      refine ⟨[], by simp, by simp, by simp, ?_⟩
      rintro m rest h
      obtain ⟨rfl, rfl⟩ := List.cons.inj h
      simp [hk]

end WordRun

open Grammar

lemma Command.ofWords_cases {p : List Lexeme} {words : List Text} (hp : words = p.map (·.text)) :
    (words = [] ∧ p = []) ∨
    (∃ w ws, words = w :: ws ∧ Piece p ∧ ofWords w ws = .ok (command p)) ∨
    ∃ w ws e, words = w :: ws ∧ p ≠ [] ∧ ¬ Piece p ∧ ofWords w ws = .error e := by
  subst hp
  cases p with
  | nil => exact Or.inl ⟨rfl, rfl⟩
  | cons l ls =>
    refine Or.inr ?_
    cases hb : assignment? l.text with
    | none =>
      refine Or.inl ⟨l.text, ls.map (·.text), rfl, ⟨by simp, ?_⟩, by simp [ofWords, command, hb]⟩
      rintro k ks h ⟨name, value, hbinds⟩
      obtain ⟨rfl, rfl⟩ := List.cons.inj h
      exact (assignment?_eq_none_iff.mp hb name value hbinds).elim
    | some nv =>
      obtain ⟨name, value⟩ := nv
      cases ls with
      | nil =>
        exact Or.inl ⟨l.text, [], rfl, ⟨by simp, by simp⟩, by simp [ofWords, command, hb]⟩
      | cons k ks =>
        refine Or.inr ⟨l.text, k.text :: ks.map (·.text), _, rfl, by simp, fun h => ?_,
          by simp only [ofWords, hb]; rfl⟩
        simpa using h.alone l (k :: ks) rfl ⟨name, value, assignment?_eq_some_iff.mp hb⟩

lemma Command.ofWords_eq_error_iff {w : Text} {ws : List Text} {e : ParseFault} :
    ofWords w ws = .error e ↔
      (assignment? w).isSome = true ∧ ∃ a vs, ws = a :: vs ∧ e = .argumentAfterAssignment a := by
  cases hw : assignment? w with
  | none => simp [ofWords, hw]
  | some nv =>
    cases ws with
    | nil => simp [ofWords, hw]
    | cons a vs => simp [ofWords, hw, eq_comm]

namespace Parse

variable {afterPipe inChain : Bool} {n : Nat} {ls rest : List Lexeme} {m : Lexeme}

lemma lexemesFrom_end (hr : (WordRun.read ls).rest = []) :
    lexemesFrom afterPipe inChain n ls =
      match (WordRun.read ls).words with
      | [] => ⟨[], if afterPipe then some (.missingAfterPipe none) else none, n + ls.length⟩
      | w :: ws =>
        match Command.ofWords w ws with
        | .error e => ⟨[], some e, n + ls.length⟩
        | .ok c => ⟨[(c, n + ls.length)], none, n + ls.length⟩ := by
  have hlen : n + (ls.length - (WordRun.read ls).rest.length) = n + ls.length := by
    rw [hr, List.length_nil, Nat.sub_zero]
  rw [lexemesFrom]
  dsimp only
  split
  · exact hlen ▸ rfl
  · simp_all

lemma read_marker (n : Nat) (hr : (WordRun.read ls).rest = m :: rest) :
    n + (ls.length - (WordRun.read ls).rest.length) + 1 = n + (ls.length - rest.length) := by
  have hlen := WordRun.rest_length_le ls
  rw [hr, List.length_cons] at hlen
  rw [hr, List.length_cons]
  omega

lemma lexemesFrom_pipe (hr : (WordRun.read ls).rest = m :: rest) (hm : m.kind = .pipe) :
    lexemesFrom afterPipe inChain n ls =
      match (WordRun.read ls).words with
      | [] =>
        ⟨[], some (if afterPipe then .missingAfterPipe (some m) else .missingBeforePipe m),
          n + (ls.length - rest.length)⟩
      | w :: ws =>
        match Command.ofWords w ws with
        | .error e => ⟨[], some e, n + (ls.length - rest.length)⟩
        | .ok c =>
          (lexemesFrom true true (n + (ls.length - rest.length)) rest).cons c
            (n + (ls.length - rest.length)) := by
  rw [lexemesFrom]
  dsimp only
  split
  · simp_all
  · rename_i m' rest' hr'
    obtain ⟨rfl, rfl⟩ := List.cons.inj (hr.symm.trans hr')
    rw [if_pos hm]
    exact read_marker n hr ▸ rfl

lemma lexemesFrom_separator (hr : (WordRun.read ls).rest = m :: rest) (hm : m.kind = .separator) :
    lexemesFrom afterPipe inChain n ls =
      match (WordRun.read ls).words with
      | [] =>
        if afterPipe then ⟨[], some (.missingAfterPipe (some m)), n + (ls.length - rest.length)⟩
        else if inChain then
          (lexemesFrom false false (n + (ls.length - rest.length)) rest).cons .flush
            (n + (ls.length - rest.length))
        else lexemesFrom false false (n + (ls.length - rest.length)) rest
      | w :: ws =>
        match Command.ofWords w ws with
        | .error e => ⟨[], some e, n + (ls.length - rest.length)⟩
        | .ok c =>
          ((lexemesFrom false false (n + (ls.length - rest.length)) rest).cons .flush
            (n + (ls.length - rest.length))).cons c (n + (ls.length - rest.length)) := by
  rw [lexemesFrom]
  dsimp only
  split
  · simp_all
  · rename_i m' rest' hr'
    obtain ⟨rfl, rfl⟩ := List.cons.inj (hr.symm.trans hr')
    rw [if_neg (by simp [hm]), if_pos hm]
    exact read_marker n hr ▸ rfl

lemma lexemesFrom_unexpected (hr : (WordRun.read ls).rest = m :: rest) (hp : m.kind ≠ .pipe)
    (hs : m.kind ≠ .separator) :
    lexemesFrom afterPipe inChain n ls =
      ⟨[], some (.unexpected m), n + (ls.length - (WordRun.read ls).rest.length)⟩ := by
  rw [lexemesFrom]
  dsimp only
  split
  · simp_all
  · rename_i m' rest' hr'
    obtain ⟨rfl, rfl⟩ := List.cons.inj (hr.symm.trans hr')
    rw [if_neg hp, if_neg hs]

@[simp] lemma cons_fault (c : Command) (k : Nat) (p : Parse) : (p.cons c k).fault = p.fault := rfl

@[simp] lemma cons_consumed (c : Command) (k : Nat) (p : Parse) :
    (p.cons c k).consumed = p.consumed := rfl

@[simp] lemma cons_commands (c : Command) (k : Nat) (p : Parse) :
    (p.cons c k).commands = (c, k) :: p.commands := rfl

structure Meets (afterPipe : Bool) (n : Nat) (ls : List Lexeme) (p : Parse) : Prop where
  fault : p.fault = none ↔ From afterPipe ls
  commands : From afterPipe ls → p.commands.map (·.1) = flatten (segments ls)
  consumed : From afterPipe ls → p.consumed = n + ls.length

lemma Meets.of_fault {p : Parse} (hp : p.fault ≠ none) (h : ¬ From afterPipe ls) :
    Meets afterPipe n ls p :=
  ⟨iff_of_false hp h, fun hf => absurd hf h, fun hf => absurd hf h⟩

lemma meets_end (hr : (WordRun.read ls).rest = []) :
    Meets afterPipe n ls (lexemesFrom afterPipe inChain n ls) := by
  obtain ⟨ps, hsplit, hkinds, hwords, -⟩ := WordRun.read_split ls
  obtain rfl : ls = ps := by simpa [hr] using hsplit
  have hfrom : From afterPipe ls ↔ _ := (from_run hkinds).trans (segment_run hkinds)
  have hflat : flatten (segments ls) = chain (unspaced ls) := by
    rw [segments_of_run hkinds]
    rfl
  rw [lexemesFrom_end hr]
  rcases Command.ofWords_cases hwords with
    ⟨hw, hnil⟩ | ⟨w, ws, hw, hpiece, hok⟩ | ⟨w, ws, e, hw, hne, hpiece, herr⟩
  · rw [hnil] at hfrom hflat
    simp only [hw]
    cases afterPipe with
    | false => exact ⟨by simp [hfrom], fun _ => by simp [hflat, chain], fun _ => rfl⟩
    | true =>
      refine .of_fault (by simp) ?_
      rw [hfrom]
      rintro (⟨h, -⟩ | h)
      · simp at h
      · exact h.nonempty rfl
  · simp only [hw, hok]
    refine ⟨by simp [hfrom, hpiece], fun _ => ?_, fun _ => rfl⟩
    simp [hflat, chain, hpiece.nonempty, pieces_of_plain (plain_of_run hkinds)]
  · simp only [hw, herr]
    exact .of_fault (by simp) (by simp [hfrom, hne, hpiece])

lemma meets_pipe (hr : (WordRun.read ls).rest = m :: rest) (hm : m.kind = .pipe)
    (ih : ∀ k, Meets true k rest (lexemesFrom true true k rest)) :
    Meets afterPipe n ls (lexemesFrom afterPipe inChain n ls) := by
  obtain ⟨ps, hsplit, hkinds, hwords, -⟩ := WordRun.read_split ls
  rw [hr] at hsplit
  have hfrom : From afterPipe ls ↔ _ := hsplit ▸ from_pipe hkinds hm
  rw [lexemesFrom_pipe hr hm]
  rcases Command.ofWords_cases hwords with
    ⟨hw, hnil⟩ | ⟨w, ws, hw, hpiece, hok⟩ | ⟨w, ws, e, hw, hne, hpiece, herr⟩
  · simp only [hw]
    refine .of_fault (by simp) fun h => ?_
    exact (hfrom.mp h).1.nonempty hnil
  · simp only [hw, hok]
    specialize ih (n + (ls.length - rest.length))
    refine ⟨by simp [hfrom, hpiece, ih.fault], fun h => ?_, fun h => ?_⟩
    · have hrest := (hfrom.mp h).2
      rw [hsplit, flatten_pipe hkinds hm hrest, ← hsplit, cons_commands, List.map_cons,
        ih.commands hrest]
    · rw [cons_consumed, ih.consumed (hfrom.mp h).2, hsplit]
      simp only [List.length_append, List.length_cons]
      omega
  · simp only [hw, herr]
    exact .of_fault (by simp) fun h => hpiece (hfrom.mp h).1

-- A chain is open exactly behind a pipe, so the two flags of the parse are the same.
lemma meets_separator (hr : (WordRun.read ls).rest = m :: rest) (hm : m.kind = .separator)
    (ih : ∀ k, Meets false k rest (lexemesFrom false false k rest)) :
    Meets afterPipe n ls (lexemesFrom afterPipe afterPipe n ls) := by
  obtain ⟨ps, hsplit, hkinds, hwords, -⟩ := WordRun.read_split ls
  rw [hr] at hsplit
  have hfrom : From afterPipe ls ↔ _ :=
    hsplit ▸ (from_separator hkinds hm).trans (and_congr_left' (segment_run hkinds))
  have hflat : flatten (segments (ps ++ m :: rest)) = _ := flatten_separator hkinds hm
  have hlen : n + (ls.length - rest.length) + rest.length = n + ls.length := by
    rw [hsplit]
    simp only [List.length_append, List.length_cons]
    omega
  rw [← hsplit] at hflat
  rw [lexemesFrom_separator hr hm]
  specialize ih (n + (ls.length - rest.length))
  rcases Command.ofWords_cases hwords with
    ⟨hw, hnil⟩ | ⟨w, ws, hw, hpiece, hok⟩ | ⟨w, ws, e, hw, hne, hpiece, herr⟩
  · simp only [hw]
    rw [if_pos hnil, List.nil_append] at hflat
    rw [hnil] at hfrom
    cases afterPipe with
    | false =>
      simp only [Bool.false_eq_true, ↓reduceIte]
      refine ⟨by simp [hfrom, ih.fault], fun h => ?_, fun h => ?_⟩
      · rw [ih.commands (hfrom.mp h).2, hflat]
      · rw [ih.consumed (hfrom.mp h).2, hlen]
    | true =>
      refine .of_fault (by simp) fun h => ?_
      rcases (hfrom.mp h).1 with ⟨h, -⟩ | h
      · simp at h
      · exact h.nonempty rfl
  · simp only [hw, hok]
    rw [if_neg hpiece.nonempty] at hflat
    refine ⟨by simp [hfrom, hpiece, ih.fault], fun h => ?_, fun h => ?_⟩
    · simp [hflat, ih.commands (hfrom.mp h).2]
    · rw [cons_consumed, cons_consumed, ih.consumed (hfrom.mp h).2, hlen]
  · simp only [hw, herr]
    refine .of_fault (by simp) fun h => ?_
    rcases (hfrom.mp h).1 with ⟨-, h⟩ | h
    · exact hne h
    · exact hpiece h

lemma meets_unexpected (hr : (WordRun.read ls).rest = m :: rest) (hp : m.kind ≠ .pipe)
    (hs : m.kind ≠ .separator) : Meets afterPipe n ls (lexemesFrom afterPipe inChain n ls) := by
  obtain ⟨ps, hsplit, -, -, hrest⟩ := WordRun.read_split ls
  obtain ⟨hplain, hspace⟩ := hrest m rest hr
  refine .of_fault (by simp [lexemesFrom_unexpected hr hp hs]) fun h => ?_
  have hm : m ∈ ls := by
    rw [hsplit, hr]
    simp
  rcases h.kinds m hm with h | h | h | h
  · exact hplain h
  · exact hspace h
  · exact hp h
  · exact hs h

lemma meets_lexemesFrom (afterPipe : Bool) (n : Nat) (ls : List Lexeme) :
    Meets afterPipe n ls (lexemesFrom afterPipe afterPipe n ls) := by
  induction hk : ls.length using Nat.strong_induction_on generalizing afterPipe n ls with
  | _ k ih =>
    cases hr : (WordRun.read ls).rest with
    | nil => exact meets_end hr
    | cons m rest =>
      have hlen := WordRun.rest_length_le ls
      rw [hr, List.length_cons] at hlen
      have hrest : ∀ b j, Meets b j rest (lexemesFrom b b j rest) :=
        fun b j => ih rest.length (by omega) b j rest rfl
      by_cases hp : m.kind = .pipe
      · exact meets_pipe hr hp (hrest true)
      · by_cases hs : m.kind = .separator
        · exact meets_separator hr hs (hrest false)
        · exact meets_unexpected hr hp hs

end Parse

namespace Lexeme

lemma parse_fault_iff (ls : List Lexeme) : (parse ls).fault = none ↔ Grammatical ls :=
  (Parse.meets_lexemesFrom false 0 ls).fault.trans (from_false_iff ls)

lemma parse_commands {ls : List Lexeme} (h : Grammatical ls) :
    (parse ls).commands.map (·.1) = flatten (segments ls) :=
  (Parse.meets_lexemesFrom false 0 ls).commands ((from_false_iff ls).mpr h)

theorem parse_grammar (ls : List Lexeme) :
    ((parse ls).fault = none ↔ Grammatical ls) ∧
      ((parse ls).fault = none →
        (parse ls).commands.map (·.1) = flatten (segments ls) ∧
        (parse ls).consumed = ls.length) ∧
      ∀ (l : Lexeme) (ks : List Lexeme),
        (∀ name value, Command.Binds l.text name value →
          command (l :: ks) = .assign name value) ∧
        ((∀ name value, ¬ Command.Binds l.text name value) →
          command (l :: ks) = .simple l.text (ks.map (·.text))) := by
  refine ⟨parse_fault_iff ls, fun h => ?_, fun l ks => ?_⟩
  · have hg := (parse_fault_iff ls).mp h
    refine ⟨parse_commands hg, ?_⟩
    simpa [parse] using (Parse.meets_lexemesFrom false 0 ls).consumed ((from_false_iff ls).mpr hg)
  · exact ⟨fun name value h => command_of_binds ks h, command_of_not_binds ks⟩

end Lexeme

end LineShell
