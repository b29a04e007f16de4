import LineShell.Proofs.Lexeme.Isolation
import Mathlib.Computability.DFA

/-! Open quotes. Whether a text leaves a quote open can be told from its quotes alone, with three
states. A strict scan agrees with a permissive one up to the quote that is open at the end. -/

namespace LineShell

inductive QuoteState where
  | outside
  | inSingle
  | inDouble
  deriving DecidableEq, Repr

namespace QuoteState

def step (s : QuoteState) (c : Char) : QuoteState :=
  match s with
  | .outside => if c = '\'' then .inSingle else if c = '"' then .inDouble else .outside
  | .inSingle => if c = '\'' then .outside else .inSingle
  | .inDouble => if c = '"' then .outside else .inDouble

def quote? : QuoteState → Option Char
  | .outside => none
  | .inSingle => some '\''
  | .inDouble => some '"'

end QuoteState

def quoteAutomaton : DFA Char QuoteState where
  step := QuoteState.step
  start := .outside
  accept := {.outside}

namespace QuoteState

lemma evalFrom_of_forall_step_eq {s : QuoteState} {t : Text} (h : ∀ c ∈ t, s.step c = s) :
    quoteAutomaton.evalFrom s t = s := by
  induction t with
  | nil => rfl
  | cons c t ih =>
    obtain ⟨hc, ht⟩ := List.forall_mem_cons.mp h
    change quoteAutomaton.evalFrom (s.step c) t = s
    rw [hc, ih ht]

lemma eval_of_not_isQuote {t : Text} (h : ∀ c ∈ t, ¬ IsQuote c) :
    quoteAutomaton.eval t = .outside := by
  refine evalFrom_of_forall_step_eq (s := .outside) fun c hc => ?_
  obtain ⟨hsingle, hdouble⟩ := not_or.mp (h c hc)
  simp [step, hsingle, hdouble]

lemma eval_append {s t : Text} (h : quoteAutomaton.eval s = .outside) :
    quoteAutomaton.eval (s ++ t) = quoteAutomaton.eval t := by
  rw [DFA.eval, DFA.evalFrom_of_append]
  exact congrArg (quoteAutomaton.evalFrom · t) h

section

variable {q : Char} {body : Text} (hq : IsQuote q) (hb : q ∉ body)

include hq

lemma quote?_step_outside : (step .outside q).quote? = some q := by
  rcases hq with rfl | rfl <;> rfl

include hb

lemma eval_unclosed : quoteAutomaton.eval (q :: body) = step .outside q := by
  refine evalFrom_of_forall_step_eq (s := step .outside q) fun c hc => ?_
  have hne : c ≠ q := ne_of_mem_of_not_mem hc hb
  rcases hq with rfl | rfl
  · simp [step, hne]
  · simp [step, hne]

lemma eval_closed : quoteAutomaton.eval (q :: body ++ [q]) = .outside := by
  rw [DFA.eval_append_singleton, eval_unclosed hq hb]
  rcases hq with rfl | rfl <;> rfl

end

end QuoteState

namespace Scan

lemma textFrom_unclosed (n : Nat) {q : Char} {body : Text} (hq : IsQuote q) (hb : q ∉ body) :
    textFrom true false n (q :: body) = ⟨[], some ⟨q, n⟩⟩ := by
  refine textFrom_cons_none n ?_
  rcases hq with rfl | rfl
  · simp [cut, not_isBlank_of_isSpecial (c := '\'') rfl, cutQuoted_unclosed true hb]
  · simp [cut, not_isBlank_of_isSpecial (c := '"') rfl, cutQuoted_unclosed true hb]

end Scan

namespace Lexeme

open QuoteState Scan

lemma ends_append (n : Nat) (ls ms : List Lexeme) :
    ends n (ls ++ ms) = ends n ls ++ ends (n + (join ls).length) ms := by
  induction ls generalizing n with
  | nil => rfl
  | cons l ls ih => simp [ends, ih, Nat.add_assoc]

-- Only an open quote swallows quotes; behind every other lexeme the state is as it was before.
lemma Munch.closed_or_unclosed {l : Lexeme} {rest : Text} (h : Munch false l rest) :
    (Munch true l rest ∧ quoteAutomaton.eval l.text = .outside) ∨
    ∃ q body, IsQuote q ∧ q ∉ body ∧ l = ⟨.plain, q :: body⟩ ∧ rest = [] := by
  rcases h.quote_cases with hfree | ⟨body, hb, rfl⟩ | ⟨body, hb, rfl⟩ | hopen
  · have hnot := not_isEnclosed_of_not_isQuote hfree
    exact Or.inl ⟨h.curtail hnot (Or.inr rfl), eval_of_not_isQuote hfree⟩
  · exact Or.inl ⟨.single hb, eval_closed (Or.inl rfl) hb⟩
  · exact Or.inl ⟨.double hb, eval_closed (Or.inr rfl) hb⟩
  · exact Or.inr hopen

/-- A strict scan of `t` takes the lexemes `ms` and stops behind them, at a quote that is never
closed. -/
structure StopsBehind (t : Text) (ms : List Lexeme) (q : Char) (body : Text) : Prop where
  quote : IsQuote q
  notMem : q ∉ body
  split : t = join ms ++ q :: body
  before : quoteAutomaton.eval (join ms) = .outside
  scan : ∀ n, textFrom true false n t = ⟨ends n ms, some ⟨q, n + (join ms).length⟩⟩

section

variable {t body : Text} {l : Lexeme} {ls ms : List Lexeme} {q : Char}

lemma StopsBehind.nil (hq : IsQuote q) (hb : q ∉ body) : StopsBehind (q :: body) [] q body where
  quote := hq
  notMem := hb
  split := rfl
  before := rfl
  scan n := textFrom_unclosed n hq hb

lemma StopsBehind.cons (hl : Munch true l t) (heval : quoteAutomaton.eval l.text = .outside)
    (h : StopsBehind t ms q body) : StopsBehind (l.text ++ t) (l :: ms) q body where
  quote := h.quote
  notMem := h.notMem
  split := by rw [h.split, join_cons, List.append_assoc]
  before := by rw [join_cons, eval_append heval, h.before]
  scan n := by
    rw [textFrom_munch n hl, h.scan, join_cons, List.length_append, Nat.add_assoc]
    rfl

lemma Munches.closed_or_unclosed (h : Munches false t ls) :
    (Munches true t ls ∧ quoteAutomaton.eval t = .outside) ∨
    ∃ ms q body, ls = ms ++ [⟨.plain, q :: body⟩] ∧ StopsBehind t ms q body := by
  induction h with
  | nil => exact Or.inl ⟨.nil, rfl⟩
  | @cons l rest ls hl hls ih =>
    rcases hl.closed_or_unclosed with ⟨hstrict, heval⟩ | ⟨q, body, hq, hb, rfl, rfl⟩
    · rcases ih with ⟨hrest, houtside⟩ | ⟨ms, q, body, rfl, hstop⟩
      · exact Or.inl ⟨.cons hstrict hrest, (eval_append heval).trans houtside⟩
      · exact Or.inr ⟨l :: ms, q, body, rfl, hstop.cons hstrict heval⟩
    · obtain rfl := hls.eq_nil
      refine Or.inr ⟨[], q, body, rfl, ?_⟩
      rw [List.append_nil]
      exact .nil hq hb

lemma StopsBehind.quote?_eval (h : StopsBehind t ms q body) :
    (quoteAutomaton.eval t).quote? = some q := by
  rw [h.split, eval_append h.before, eval_unclosed h.quote h.notMem, quote?_step_outside h.quote]

end

end Lexeme

namespace Text

open Lexeme QuoteState

theorem scan_strict_quotes (t : Text) :
    (t.isComplete ↔ quoteAutomaton.eval t = .outside) ∧
    (quoteAutomaton.eval t = .outside →
      t.scan true false = t.scan false false ∧ (t.scan true false).fault = none) ∧
    (quoteAutomaton.eval t ≠ .outside → ∃ p q,
      (t.scan true false).fault = some ⟨q, p⟩ ∧
      (t.scan false false).lexemes =
        (t.scan true false).lexemes ++ [(⟨.plain, t.drop p⟩, t.length)] ∧
      t[p]? = some q ∧ (quoteAutomaton.eval t).quote? = some q ∧
      quoteAutomaton.eval (t.take p) = .outside ∧ q ∉ t.drop (p + 1)) := by
  have hls := t.munches_lexemes
  rcases hls.closed_or_unclosed with ⟨hstrict, houtside⟩ | ⟨ms, q, body, hms, hstop⟩
  · refine ⟨iff_of_true (t.isComplete_iff.mpr ⟨_, hstrict⟩) houtside, fun _ => ?_, ?_⟩
    · rw [scan_of_munches hstrict, scan_of_munches hls]
      exact ⟨rfl, rfl⟩
    · exact fun hne => absurd houtside hne
  · have hscan : t.scan true false = ⟨ends 0 ms, some ⟨q, (join ms).length⟩⟩ := by
      rw [scan, hstop.scan, Nat.zero_add]
    have hquote := hstop.quote?_eval
    have hinside : quoteAutomaton.eval t ≠ .outside := by
      intro houtside
      rw [houtside] at hquote
      cases hquote
    refine ⟨iff_of_false ?_ hinside, fun houtside => absurd houtside hinside, fun _ => ?_⟩
    · simp [isComplete, hscan]
    · rw [hscan, scan_of_munches hls, hms, ends_append]
      refine ⟨(join ms).length, q, rfl, ?_, ?_, hquote, ?_, ?_⟩
      all_goals rw [hstop.split]
      · simp [ends]
      · simp
      · rw [List.take_left, hstop.before]
      · simpa using hstop.notMem

end Text

end LineShell
