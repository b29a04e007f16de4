import LineShell.Proofs.Command.Parse
import LineShell.Proofs.Outcome
import Mathlib.Data.List.SplitBy

namespace LineShell

namespace Grammar

def wordsOf (ps : List Lexeme) : List Text :=
  (unspaced ps).map (·.text)

lemma wordsOf_append (ps qs : List Lexeme) : wordsOf (ps ++ qs) = wordsOf ps ++ wordsOf qs := by
  rw [wordsOf, unspaced_append, List.map_append]
  rfl

lemma isMarker_iff {l : Lexeme} : l.isMarker = true ↔ l.kind = .pipe ∨ l.kind = .separator := by
  simp [Lexeme.isMarker]

@[elab_as_elim]
lemma runInduction {motive : List Lexeme → Prop}
    (last : ∀ ps, (∀ l ∈ ps, l.kind = .plain ∨ l.kind = .space) → motive ps)
    (marked : ∀ ps m rest, (∀ l ∈ ps, l.kind = .plain ∨ l.kind = .space) → m.isMarker = true →
      motive rest → motive (ps ++ m :: rest))
    (stray : ∀ ps x rest, (∀ l ∈ ps, l.kind = .plain ∨ l.kind = .space) → x.kind ≠ .plain →
      x.kind ≠ .space → x.isMarker = false → motive (ps ++ x :: rest)) (ls : List Lexeme) :
    motive ls := by
  induction hk : ls.length using Nat.strong_induction_on generalizing ls with
  | _ k ih =>
    obtain ⟨ps, hsplit, hkinds, -, hrest⟩ := WordRun.read_split ls
    cases hr : (WordRun.read ls).rest with
    | nil =>
      rw [hr, List.append_nil] at hsplit
      exact hsplit ▸ last ps hkinds
    | cons m rest =>
      obtain ⟨hplain, hspace⟩ := hrest m rest hr
      rw [hr] at hsplit
      rw [hsplit]
      cases hm : m.isMarker with
      | true =>
        refine marked ps m rest hkinds hm (ih rest.length ?_ rest rfl)
        rw [← hk, hsplit, List.length_append, List.length_cons]
        omega
      | false => exact stray ps m rest hkinds hplain hspace hm

end Grammar

open Grammar

namespace WordRun

lemma read_stop {l : Lexeme} (hplain : l.kind ≠ .plain) (hspace : l.kind ≠ .space)
    (ls : List Lexeme) : read (l :: ls) = ⟨[], l :: ls⟩ := by
  unfold read
  split
  · exact absurd ‹_› hspace
  · exact absurd ‹_› hplain
  · rfl

lemma read_append {ps : List Lexeme} (h : ∀ l ∈ ps, l.kind = .plain ∨ l.kind = .space)
    (ls : List Lexeme) : read (ps ++ ls) = ⟨wordsOf ps ++ (read ls).words, (read ls).rest⟩ := by
  induction ps with
  | nil => rfl
  | cons l ps ih =>
    obtain ⟨hl, hps⟩ := List.forall_mem_cons.mp h
    rw [List.cons_append, read]
    rcases hl with hl | hl
    · simp [hl, ih hps, wordsOf, unspaced_cons (l := l) (by simp [hl]), Lexeme.value]
    · simp [hl, ih hps, wordsOf, unspaced_cons_space hl]

end WordRun

namespace Parse

def turn (afterPipe : Bool) (words : List Text) (marker : Option Lexeme) :
    Except ParseFault (List Command) :=
  match words with
  | [] =>
    if afterPipe then .error (.missingAfterPipe marker)
    else match marker with
      | none => .ok []
      | some m => if m.kind = .pipe then .error (.missingBeforePipe m) else .ok []
  | w :: ws =>
    (Command.ofWords w ws).map fun c =>
      c :: if marker.any (·.kind = .separator) then [.flush] else []

def ofTurn (k : Nat) (next : Parse) : Except ParseFault (List Command) → Parse
  | .error e => ⟨[], some e, k⟩
  | .ok cs => { next with commands := cs.map (·, k) ++ next.commands }

section

variable {afterPipe : Bool} {n : Nat} {ps rest : List Lexeme} {m : Lexeme}

lemma lexemesFrom_last (h : ∀ l ∈ ps, l.kind = .plain ∨ l.kind = .space) :
    lexemesFrom afterPipe afterPipe n ps =
      ofTurn (n + ps.length) ⟨[], none, n + ps.length⟩ (turn afterPipe (wordsOf ps) none) := by
  have hread : WordRun.read ps = ⟨wordsOf ps, []⟩ := by
    simpa [WordRun.read] using WordRun.read_append h []
  rw [lexemesFrom_end (by rw [hread]), hread]
  cases wordsOf ps with
  | nil => cases afterPipe <;> rfl
  | cons w ws => cases hw : Command.ofWords w ws <;> simp [turn, hw, ofTurn, Except.map]

-- A chain is open exactly behind a pipe, so one flag stands for both.
lemma lexemesFrom_marked (h : ∀ l ∈ ps, l.kind = .plain ∨ l.kind = .space)
    (hm : m.isMarker = true) :
    lexemesFrom afterPipe afterPipe n (ps ++ m :: rest) =
      ofTurn (n + ps.length + 1)
        (lexemesFrom (m.kind = .pipe) (m.kind = .pipe) (n + ps.length + 1) rest)
        (turn afterPipe (wordsOf ps) (some m)) := by
  have hkind := isMarker_iff.mp hm
  have hread : WordRun.read (ps ++ m :: rest) = ⟨wordsOf ps, m :: rest⟩ := by
    rw [WordRun.read_append h, WordRun.read_stop (by rcases hkind with hk | hk <;> simp [hk])
      (by rcases hkind with hk | hk <;> simp [hk]), List.append_nil]
  have hlen : n + ((ps ++ m :: rest).length - rest.length) = n + ps.length + 1 := by
    rw [List.length_append, List.length_cons]
    omega
  rcases hkind with hk | hk
  · rw [lexemesFrom_pipe (by rw [hread]) hk, hread, hlen]
    cases wordsOf ps with
    | nil => cases afterPipe <;> simp [turn, ofTurn, hk]
    | cons w ws => cases hw : Command.ofWords w ws <;> simp [turn, hw, ofTurn, Except.map, hk, cons]
  · rw [lexemesFrom_separator (by rw [hread]) hk, hread, hlen]
    cases wordsOf ps with
    | nil => cases afterPipe <;> simp [turn, ofTurn, hk]
    | cons w ws => cases hw : Command.ofWords w ws <;> simp [turn, hw, ofTurn, Except.map, hk, cons]

lemma lexemesFrom_stray (h : ∀ l ∈ ps, l.kind = .plain ∨ l.kind = .space)
    (hplain : m.kind ≠ .plain) (hspace : m.kind ≠ .space) (hm : m.isMarker = false) :
    lexemesFrom afterPipe afterPipe n (ps ++ m :: rest) =
      ⟨[], some (.unexpected m), n + ps.length⟩ := by
  have hread : WordRun.read (ps ++ m :: rest) = ⟨wordsOf ps, m :: rest⟩ := by
    rw [WordRun.read_append h, WordRun.read_stop hplain hspace, List.append_nil]
  have hnot : ¬ (m.kind = .pipe ∨ m.kind = .separator) := by simp [← isMarker_iff, hm]
  obtain ⟨hpipe, hsep⟩ := not_or.mp hnot
  rw [lexemesFrom_unexpected (by rw [hread]) hpipe hsep, hread]
  simp

lemma turn_eq_error {words : List Text} {marker : Option Lexeme} {e : ParseFault}
    (h : turn afterPipe words marker = .error e) :
    (words = [] ∧ afterPipe = true ∧ e = .missingAfterPipe marker) ∨
    (∃ k, words = [] ∧ afterPipe = false ∧ marker = some k ∧ k.kind = .pipe ∧
      e = .missingBeforePipe k) ∨
    ∃ w ws, words = w :: ws ∧ Command.ofWords w ws = .error e := by
  cases words with
  | nil =>
    cases afterPipe with
    | true => exact Or.inl ⟨rfl, rfl, (Except.error.inj h).symm⟩
    | false =>
      cases marker with
      | none => cases h
      | some k =>
        by_cases hk : k.kind = .pipe
        · refine Or.inr (Or.inl ⟨k, rfl, rfl, rfl, hk, ?_⟩)
          simpa [turn, hk] using h.symm
        · simp [turn, hk] at h
  | cons w ws => exact Or.inr (Or.inr ⟨w, ws, rfl, map_eq_error_iff.mp h⟩)

lemma turn_eq_ok {words : List Text} {marker : Option Lexeme} {cs : List Command}
    (h : turn afterPipe words marker = .ok cs) :
    (words = [] ∧ cs = []) ∨
    ∃ w ws c, words = w :: ws ∧ Command.ofWords w ws = .ok c ∧
      cs = c :: if marker.any (·.kind = .separator) then [.flush] else [] := by
  cases words with
  | nil =>
    cases afterPipe with
    | true => cases h
    | false =>
      cases marker with
      | none => exact Or.inl ⟨rfl, (Except.ok.inj h).symm⟩
      | some k => by_cases hk : k.kind = .pipe <;> simp_all [turn]
  | cons w ws =>
    obtain ⟨c, hc, rfl⟩ := map_eq_ok_iff.mp h
    exact Or.inr ⟨w, ws, c, rfl, hc, rfl⟩

def Stopped (p : Parse) : Prop :=
  ∃ e, p.fault = some e ∧ e ≠ .missingAfterPipe none

lemma turn_ne_missing {words : List Text} {e : ParseFault}
    (h : turn afterPipe words (some m) = .error e) : e ≠ .missingAfterPipe none := by
  rcases turn_eq_error h with ⟨-, -, rfl⟩ | ⟨k, -, -, -, -, rfl⟩ | ⟨w, ws, -, herr⟩
  · simp
  · simp
  · obtain ⟨-, a, vs, -, rfl⟩ := Command.ofWords_eq_error_iff.mp herr
    simp

def behind (afterPipe : Bool) (u : List Lexeme) : Bool :=
  u.getLast?.elim afterPipe fun m => decide (m.kind = .pipe)

lemma behind_marked (afterPipe : Bool) (ps : List Lexeme) (m : Lexeme) (rest : List Lexeme) :
    behind afterPipe (ps ++ m :: rest) = behind (m.kind = .pipe) rest := by
  rw [behind, behind, List.getLast?_append, List.getLast?_cons]
  cases rest.getLast? <;> rfl

lemma lexemesFrom_append {u : List Lexeme} (hu : ∀ k, u.getLast? = some k → k.isMarker = true)
    (t : List Lexeme) :
    (Stopped (lexemesFrom afterPipe afterPipe n u) →
      lexemesFrom afterPipe afterPipe n (u ++ t) = lexemesFrom afterPipe afterPipe n u) ∧
    (¬ Stopped (lexemesFrom afterPipe afterPipe n u) →
      lexemesFrom afterPipe afterPipe n (u ++ t) =
        let next := lexemesFrom (behind afterPipe u) (behind afterPipe u) (n + u.length) t
        { next with commands := (lexemesFrom afterPipe afterPipe n u).commands ++ next.commands })
    := by
  induction u using runInduction generalizing afterPipe n with
  | last ps h =>
    -- Without a marker in them, lexemes that end with a marker are none.
    have hnil : ps = [] := by
      by_contra hne
      have hmarker := isMarker_iff.mp (hu _ (List.getLast?_eq_some_getLast hne))
      have hkind := h _ (List.getLast_mem hne)
      rcases hkind with hk | hk <;> simp [hk] at hmarker
    subst hnil
    rw [lexemesFrom_last h]
    constructor
    · rintro ⟨e, he, hne⟩
      cases afterPipe
      · cases he
      · exact absurd (Option.some.inj he).symm hne
    · intro _
      cases afterPipe <;> rfl
  | marked ps m rest h hm ih =>
    have hrest : ∀ k, rest.getLast? = some k → k.isMarker = true := by
      intro k hk
      apply hu k
      rw [List.getLast?_append, List.getLast?_cons, hk]
      rfl
    rw [List.append_assoc, List.cons_append, lexemesFrom_marked h hm, lexemesFrom_marked h hm,
      behind_marked]
    cases hturn : turn afterPipe (wordsOf ps) (some m) with
    | error e =>
      exact ⟨fun _ => rfl, fun hgo => absurd ⟨e, rfl, turn_ne_missing hturn⟩ hgo⟩
    | ok cs =>
      obtain ⟨hstop, hgo⟩ := @ih (m.kind = .pipe) (n + ps.length + 1) hrest
      have hlen : n + (ps ++ m :: rest).length = n + ps.length + 1 + rest.length := by
        rw [List.length_append, List.length_cons]
        omega
      constructor
      · intro hs
        rw [hstop hs]
      · intro hs
        rw [hgo hs, hlen]
        simp only [ofTurn, List.append_assoc]
  | stray ps x rest h hplain hspace hx =>
    rw [List.append_assoc, List.cons_append, lexemesFrom_stray h hplain hspace hx,
      lexemesFrom_stray h hplain hspace hx]
    exact ⟨fun _ => rfl, fun hgo => absurd ⟨.unexpected x, rfl, by simp⟩ hgo⟩

end

end Parse

namespace Grammar

def stretches (ls : List Lexeme) : List (List Lexeme) :=
  ls.splitBy fun l _ => !l.isMarker

def yield (n : Nat) (s : List Lexeme) : List (Command × Nat) :=
  let p := s.filter (·.kind = .plain)
  if p = [] then []
  else (command p, n) :: if s.getLast?.any (·.kind = .separator) then [(.flush, n)] else []

/-- What stretches give, each at the position just behind its last lexeme; `n` lexemes stand before
them. -/
def timetable : Nat → List (List Lexeme) → List (Command × Nat)
  | _, [] => []
  | n, s :: ss => yield (n + s.length) s ++ timetable (n + s.length) ss

section

variable {ps : List Lexeme}

lemma isChain_run (h : ∀ l ∈ ps, l.kind = .plain ∨ l.kind = .space) :
    ps.IsChain fun l _ => (!l.isMarker) = true := by
  induction ps with
  | nil => exact .nil
  | cons l ps ih =>
    obtain ⟨hl, hps⟩ := List.forall_mem_cons.mp h
    refine List.isChain_cons.mpr ⟨fun _ _ => ?_, ih hps⟩
    rcases hl with hl | hl <;> simp [Lexeme.isMarker, hl]

lemma stretches_run (h : ∀ l ∈ ps, l.kind = .plain ∨ l.kind = .space) (hne : ps ≠ []) :
    stretches ps = [ps] :=
  List.splitBy_of_isChain hne (isChain_run h)

lemma stretches_marked (h : ∀ l ∈ ps, l.kind = .plain ∨ l.kind = .space) {m : Lexeme}
    (hm : m.isMarker = true) (rest : List Lexeme) :
    stretches (ps ++ m :: rest) = (ps ++ [m]) :: stretches rest := by
  have hchain : (ps ++ [m]).IsChain fun l _ => (!l.isMarker) = true := by
    refine List.isChain_append.mpr ⟨isChain_run h, List.isChain_singleton _, fun l hl _ _ => ?_⟩
    rcases h l (List.mem_of_getLast? hl) with hk | hk <;> simp [Lexeme.isMarker, hk]
  have hsplit : stretches (ps ++ [m] ++ rest) = stretches (ps ++ [m]) ++ stretches rest := by
    refine List.splitBy_append fun l hl _ _ => ?_
    rw [List.getLast?_concat] at hl
    simp [← Option.some.inj hl, hm]
  rw [List.append_cons, hsplit]
  exact congrArg (· ++ stretches rest) (List.splitBy_of_isChain (by simp) hchain)

lemma filter_plain (h : ∀ l ∈ ps, l.kind = .plain ∨ l.kind = .space) :
    ps.filter (·.kind = .plain) = unspaced ps := by
  refine List.filter_congr fun l hl => ?_
  rcases h l hl with hk | hk <;> simp [hk]

lemma mem_yield {c : Command} {k n : Nat} {s : List Lexeme} (h : (c, k) ∈ yield n s) :
    k = n ∧ s ≠ [] := by
  unfold yield at h
  dsimp only at h
  split_ifs at h with hp
  · cases h
  all_goals
    refine ⟨?_, fun hs => hp (by rw [hs, List.filter_nil])⟩
    simp only [List.mem_cons, Prod.mk.injEq, List.not_mem_nil, or_false] at h
    omega

lemma mem_timetable {c : Command} {k n : Nat} {ss : List (List Lexeme)}
    (h : (c, k) ∈ timetable n ss) : n < k ∧ k ≤ n + ss.flatten.length := by
  induction ss generalizing n with
  | nil => cases h
  | cons s ss ih =>
    rw [List.flatten_cons, List.length_append]
    rcases List.mem_append.mp h with h | h
    · obtain ⟨rfl, hne⟩ := mem_yield h
      have hpos := List.length_pos_iff.mpr hne
      omega
    · have hbounds := ih h
      omega

lemma yield_of_turn (h : ∀ l ∈ ps, l.kind = .plain ∨ l.kind = .space) {afterPipe : Bool}
    {marker : Option Lexeme} (hmarker : ∀ m, marker = some m → m.isMarker = true)
    {cs : List Command} (hturn : Parse.turn afterPipe (wordsOf ps) marker = .ok cs) (n : Nat) :
    cs.map (·, n) = yield n (ps ++ marker.toList) := by
  have hplain : (ps ++ marker.toList).filter (·.kind = .plain) = unspaced ps := by
    rw [List.filter_append, filter_plain h]
    cases marker with
    | none => simp
    | some m => rcases isMarker_iff.mp (hmarker m rfl) with hk | hk <;> simp [hk]
  have hlast : (ps ++ marker.toList).getLast?.any (·.kind = .separator) =
      marker.any (·.kind = .separator) := by
    cases marker with
    | some m => simp
    | none =>
      cases hl : ps.getLast? with
      | none => simp [hl]
      | some l => rcases h l (List.mem_of_getLast? hl) with hk | hk <;> simp [hl, hk]
  unfold yield
  rw [hplain, hlast]
  rcases Command.ofWords_cases (p := unspaced ps) rfl with
    ⟨hw, hnil⟩ | ⟨w, ws, hw, hpiece, hok⟩ | ⟨w, ws, e, hw, -, -, herr⟩
  · rcases Parse.turn_eq_ok hturn with ⟨-, rfl⟩ | ⟨w, ws, c, hws, -⟩
    · rw [if_pos hnil, List.map_nil]
    · exact absurd (hw.symm.trans hws) (by simp)
  · rcases Parse.turn_eq_ok hturn with ⟨hws, -⟩ | ⟨w', ws', c, hws, hc, rfl⟩
    · exact absurd (hw.symm.trans hws) (by simp)
    · obtain ⟨rfl, rfl⟩ := List.cons.inj (hw.symm.trans hws)
      rw [if_neg hpiece.nonempty, Except.ok.inj (hok.symm.trans hc), List.map_cons]
      split_ifs <;> rfl
  · rcases Parse.turn_eq_ok hturn with ⟨hws, -⟩ | ⟨w', ws', c, hws, hc, -⟩
    · exact absurd (hw.symm.trans hws) (by simp)
    · obtain ⟨rfl, rfl⟩ := List.cons.inj (hw.symm.trans hws)
      exact absurd (herr.symm.trans hc) (by simp)

end

end Grammar

namespace Parse

variable {afterPipe : Bool} {n : Nat} {ls : List Lexeme}

lemma commands_lexemesFrom (afterPipe : Bool) (n : Nat) (ls : List Lexeme) :
    ∃ j, (lexemesFrom afterPipe afterPipe n ls).commands = timetable n ((stretches ls).take j) ∧
      ((lexemesFrom afterPipe afterPipe n ls).fault = none → (stretches ls).length ≤ j) := by
  induction ls using runInduction generalizing afterPipe n with
  | last ps h =>
    rw [lexemesFrom_last h]
    cases hturn : turn afterPipe (wordsOf ps) none with
    | error e => exact ⟨0, rfl, by simp [ofTurn]⟩
    | ok cs =>
      have hyield := yield_of_turn h (by simp) hturn (n + ps.length)
      rw [Option.toList_none, List.append_nil] at hyield
      by_cases hne : ps = []
      · subst hne
        exact ⟨0, congrArg (· ++ []) hyield, by simp [stretches]⟩
      · rw [stretches_run h hne]
        exact ⟨1, congrArg (· ++ []) hyield, by simp⟩
  | marked ps m rest h hm ih =>
    rw [lexemesFrom_marked h hm, stretches_marked h hm]
    cases hturn : turn afterPipe (wordsOf ps) (some m) with
    | error e => exact ⟨0, rfl, by simp [ofTurn]⟩
    | ok cs =>
      obtain ⟨j, hcommands, hall⟩ := ih (m.kind = .pipe) (n + ps.length + 1)
      have hlen : n + (ps ++ [m]).length = n + ps.length + 1 := by
        rw [List.length_append, List.length_singleton, Nat.add_assoc]
      refine ⟨j + 1, ?_, fun hf => Nat.succ_le_succ (hall hf)⟩
      rw [List.take_succ_cons, timetable, hlen, ofTurn, hcommands,
        yield_of_turn h (by simpa using hm) hturn]
      rfl
  | stray ps x rest h hplain hspace hx =>
    rw [lexemesFrom_stray h hplain hspace hx]
    exact ⟨0, rfl, by simp⟩

lemma position_lexemesFrom {c : Command} {k : Nat}
    (h : (c, k) ∈ (lexemesFrom afterPipe afterPipe n ls).commands) :
    n < k ∧ k ≤ n + ls.length := by
  obtain ⟨j, hcommands, -⟩ := commands_lexemesFrom afterPipe n ls
  rw [hcommands] at h
  have hbounds := mem_timetable h
  have hlen : ((stretches ls).take j).flatten.length ≤ ls.length := by
    have hsub := ((stretches ls).take_sublist j).flatten.length_le
    rwa [stretches, List.flatten_splitBy] at hsub
  omega

end Parse

namespace Lexeme

open Parse

theorem parse_online {u : List Lexeme} {m : Lexeme} (hu : u.getLast? = some m)
    (hm : m.isMarker = true) (t : List Lexeme) :
    (parse (u ++ t)).commands.filter (·.2 ≤ u.length) = (parse u).commands ∧
      (∀ ls, ∃ j, (parse ls).commands = timetable 0 ((stretches ls).take j) ∧
        ((parse ls).fault = none → (stretches ls).length ≤ j)) ∧
      ∀ e, (parse u).fault = some e → e ≠ .missingAfterPipe none → parse (u ++ t) = parse u := by
  have hmarked : ∀ k, u.getLast? = some k → k.isMarker = true := by
    intro k hk
    rwa [← Option.some.inj (hu.symm.trans hk)]
  obtain ⟨hstop, hgo⟩ := @lexemesFrom_append false 0 u hmarked t
  have hwithin : (parse u).commands.filter (·.2 ≤ u.length) = (parse u).commands := by
    refine List.filter_eq_self.mpr fun ⟨c, k⟩ hk => decide_eq_true ?_
    have hbounds := position_lexemesFrom hk
    omega
  refine ⟨?_, commands_lexemesFrom false 0, fun e he hne => hstop ⟨e, he, hne⟩⟩
  by_cases hs : Stopped (parse u)
  · have heq : parse (u ++ t) = parse u := hstop hs
    rw [heq, hwithin]
  · have heq := congrArg Parse.commands (hgo hs)
    dsimp only at heq
    have hbeyond : (lexemesFrom (behind false u) (behind false u) (0 + u.length) t).commands.filter
        (·.2 ≤ u.length) = [] := by
      refine List.filter_eq_nil_iff.mpr fun ⟨c, k⟩ hk => ?_
      have hbounds := position_lexemesFrom hk
      simp only [decide_eq_true_eq]
      omega
    change (parse (u ++ t)).commands = (parse u).commands ++ _ at heq
    rw [heq, List.filter_append, hbeyond, List.append_nil, hwithin]

-- The second pipe is a fault, and what stands before the first one stays as it was.
theorem parse_online_pipes :
    let word (t : String) : Lexeme := ⟨.plain, t.toList⟩
    let u : List Lexeme := [word "x=1", ⟨.separator, [';']⟩, word "echo", ⟨.space, [' ']⟩, word "a",
      ⟨.pipe, ['|']⟩]
    let t : List Lexeme := [⟨.pipe, ['|']⟩, word "wc"]
    (u.getLast? = some ⟨.pipe, ['|']⟩ ∧ Lexeme.isMarker ⟨.pipe, ['|']⟩ = true) ∧
    (parse (u ++ t)).fault = some (.missingAfterPipe (some ⟨.pipe, ['|']⟩)) ∧
    (parse (u ++ t)).commands.filter (·.2 ≤ u.length) =
      [(.assign ['x'] ['1'], 2), (.flush, 2), (.simple "echo".toList [['a']], 6)] := by
  intro word u t
  refine ⟨⟨rfl, rfl⟩, by decide +kernel, ?_⟩
  refine (parse_online (u := u) rfl rfl t).1.trans ?_
  decide +kernel

end Lexeme

end LineShell
