import LineShell.Proofs.Command.Parse
import LineShell.Proofs.Lexeme.Seam
import LineShell.Proofs.Shell.Line
import Mathlib.Data.List.Induction

namespace LineShell

namespace Grammar

def closed (ss : List (List Lexeme)) : List Command :=
  ss.flatMap fun s => if s = [] then [] else chain s ++ [.flush]

lemma flatten_append (ss : List (List Lexeme)) {ts : List (List Lexeme)} (ht : ts ≠ []) :
    flatten (ss ++ ts) = closed ss ++ flatten ts := by
  induction ss with
  | nil => rfl
  | cons s ss ih =>
    obtain ⟨t, us, hu⟩ := List.exists_cons_of_ne_nil (l := ss ++ ts) (by simp [ht])
    rw [List.cons_append, hu, flatten, ← hu, ih]
    simp [closed]

lemma closed_append_singleton (ss : List (List Lexeme)) (s : List Lexeme) :
    closed (ss ++ [s]) = flatten (ss ++ [s]) ++ if s = [] then [] else [.flush] := by
  rw [flatten_append ss (by simp), flatten]
  by_cases hs : s = []
  · simp [closed, chain, hs]
  · simp [closed, hs]

lemma closed_eq_nil_or (ss : List (List Lexeme)) :
    closed ss = [] ∨ ∃ cs, closed ss = cs ++ [.flush] := by
  induction ss using List.reverseRecOn with
  | nil => exact Or.inl rfl
  | append_singleton ss s ih =>
    by_cases hs : s = []
    · simpa [closed, hs] using ih
    · exact Or.inr ⟨closed ss ++ chain s, by simp [closed, hs]⟩

lemma grammatical_append_separator (ls rest : List Lexeme) {m : Lexeme} (hm : m.kind = .separator) :
    Grammatical (ls ++ m :: rest) ↔ Grammatical ls ∧ Grammatical rest := by
  have hseg := segments_append_separator ls rest hm
  constructor
  · rintro ⟨hkinds, hsegs⟩
    rw [hseg] at hsegs
    exact ⟨⟨fun l hl => hkinds l (by simp [hl]), fun s hs => hsegs s (by simp [hs])⟩,
      ⟨fun l hl => hkinds l (by simp [hl]), fun s hs => hsegs s (by simp [hs])⟩⟩
  · rintro ⟨⟨hkinds, hsegs⟩, hkinds', hsegs'⟩
    refine ⟨fun l hl => ?_, fun s hs => ?_⟩
    · rcases List.mem_append.mp hl with hl | hl
      · exact hkinds l hl
      · rcases List.mem_cons.mp hl with rfl | hl
        · simp [hm]
        · exact hkinds' l hl
    · rw [hseg] at hs
      exact (List.mem_append.mp hs).elim (hsegs s) (hsegs' s)

end Grammar

open Grammar

namespace Shell

-- Behind closed segments the pipe is empty: the last thing that ran is a flush, if anything did.
lemma pipe_perform_closed {w : World} {c : Context} {ss : List (List Lexeme)}
    (h : (perform w (closed ss) c).fault = none) :
    (perform w (closed ss) c).state.pipe = none := by
  rcases closed_eq_nil_or ss with hnil | ⟨cs, hcs⟩
  · rw [hnil]
    rfl
  · rw [hcs, perform, Run.all_append] at h ⊢
    cases hf : (Run.all (Command.step w) cs { context := c }).fault with
    | some f =>
      rw [Run.andThen_of_fault hf, hf] at h
      simp at h
    | none =>
      rw [Run.andThen_of_none hf]
      rfl

-- The separator behind a line closes its last chain, which shows in nothing but the state.
lemma perform_closed (w : World) (c : Context) {ss : List (List Lexeme)} (hne : ss ≠ []) :
    (perform w (closed ss) c).fault = (perform w (flatten ss) c).fault ∧
    (perform w (closed ss) c).calls = (perform w (flatten ss) c).calls ∧
    (perform w (closed ss) c).state.context = (perform w (flatten ss) c).state.context ∧
    ((perform w (flatten ss) c).fault = none →
      (perform w (closed ss) c).state = (perform w (flatten ss) c).state.flush) := by
  obtain ⟨ss, s, rfl⟩ : ∃ ts s, ss = ts ++ [s] :=
    ⟨ss.dropLast, ss.getLast hne, (List.dropLast_concat_getLast hne).symm⟩
  have hclosed := closed_append_singleton ss s
  by_cases hs : s = []
  · rw [if_pos hs, List.append_nil] at hclosed
    rw [← hclosed]
    exact ⟨rfl, rfl, rfl, fun h => (State.flush_of_pipe_none (pipe_perform_closed h)).symm⟩
  · rw [if_neg hs] at hclosed
    rw [hclosed]
    simp only [perform, Run.all_append]
    cases hf : (Run.all (Command.step w) (flatten (ss ++ [s])) { context := c }).fault with
    | some f =>
      rw [Run.andThen_of_fault hf]
      exact ⟨hf, rfl, rfl, by simp⟩
    | none =>
      rw [Run.andThen_of_none hf]
      exact ⟨rfl, List.append_nil _, rfl, fun _ => rfl⟩

section

variable {c : Context} {a b : Text}

lemma parses_append_separator (ha : a.isComplete) (he : (a.expand c.get?).isComplete) :
    (parse c (a ++ ';' :: b)).fault = none ↔
      (parse c a).fault = none ∧ (parse c b).fault = none := by
  simp only [parse, Lexeme.parse_fault_iff, Text.tokens_append_separator c.get? ha he]
  exact grammatical_append_separator _ _ rfl

lemma commands_eq {line : Text} (h : (parse c line).fault = none) :
    commands c line = flatten (segments (line.tokens c.get?)) :=
  Lexeme.parse_commands ((Lexeme.parse_fault_iff _).mp h)

lemma commands_append_separator (ha : a.isComplete) (he : (a.expand c.get?).isComplete)
    (hpa : (parse c a).fault = none) (hpb : (parse c b).fault = none) :
    commands c (a ++ ';' :: b) = closed (segments (a.tokens c.get?)) ++ commands c b := by
  have hne : segments (b.tokens c.get?) ≠ [] := List.splitOnP_ne_nil _ _
  rw [commands_eq ((parses_append_separator ha he).mpr ⟨hpa, hpb⟩), commands_eq hpb,
    Text.tokens_append_separator c.get? ha he, segments_append_separator _ _ rfl,
    flatten_append _ hne]

theorem execute_append_separator (w : World) (ha : a.isComplete)
    (he : (a.expand c.get?).isComplete) :
    ((parse c (a ++ ';' :: b)).fault = none ↔
      (parse c a).fault = none ∧ (parse c b).fault = none) ∧
    ((parse c a).fault = none → (parse c b).fault = none →
      let first := perform w (commands c a) c
      let second := perform w (commands c b) first.state.context
      let line := execute w c (a ++ ';' :: b)
      match first.fault, second.fault with
      | some f, _ =>
        line.outcome = .error (.run f) ∧ line.context = first.state.context ∧
          line.calls = first.calls
      | none, some f =>
        line.outcome = .error (.run f) ∧ line.context = second.state.context ∧
          line.calls = first.calls ++ second.calls
      | none, none =>
        line.outcome = .ok (first.state.result ++ second.state.result) ∧
          line.context = second.state.context ∧ line.calls = first.calls ++ second.calls) := by
  refine ⟨parses_append_separator ha he, fun hpa hpb => ?_⟩
  obtain ⟨hcontext, hcalls, houtcome⟩ :=
    execute_of_parses (w := w) ((parses_append_separator ha he).mpr ⟨hpa, hpb⟩)
  have hboth : perform w (commands c (a ++ ';' :: b)) c =
      (perform w (closed (segments (a.tokens c.get?))) c).andThen
        (Run.all (Command.step w) (commands c b)) := by
    rw [commands_append_separator ha he hpa hpb, perform, Run.all_append]
    rfl
  have hne : segments (a.tokens c.get?) ≠ [] := List.splitOnP_ne_nil _ _
  obtain ⟨hfault, hcalls', hcontext', hstate⟩ := perform_closed w c hne
  rw [← commands_eq hpa] at hfault hcalls' hcontext' hstate
  -- The second line runs behind the output of the first, which it cannot see.
  have hsecond : Run.all (Command.step w) (commands c b) (perform w (commands c a) c).state.flush =
      { perform w (commands c b) (perform w (commands c a) c).state.context with
        state := (perform w (commands c b) (perform w (commands c a) c).state.context).state.prepend
          (perform w (commands c a) c).state.result } := by
    rw [State.flush_eq_prepend]
    exact Run.all_prepend w _ _ _
  dsimp only
  rw [hcontext, hcalls, houtcome, hboth]
  cases hf : (perform w (commands c a) c).fault with
  | some f =>
    rw [hf] at hfault
    rw [Run.andThen_of_fault hfault, hfault]
    exact ⟨rfl, hcontext', hcalls'⟩
  | none =>
    rw [hf] at hfault
    rw [Run.andThen_of_none hfault, hstate hf, hsecond, hcalls']
    cases hs : (perform w (commands c b) (perform w (commands c a) c).state.context).fault with
    | some f => exact ⟨rfl, rfl, rfl⟩
    | none => exact ⟨congrArg Except.ok (State.result_prepend _ _), rfl, rfl⟩

end

-- A quoted separator cuts nothing, nor does one that a variable brings in between quotes.
theorem execute_append_separator_quoted :
    let w : World := { processCwd := ['/'], home := none }
    let c : Context := ⟨['/'], ⟨[(['x'], "u;v".toList)]⟩⟩
    let a := "echo 'p;q'|cat".toList
    let b := "echo \"$x\"".toList
    Text.isComplete a ∧ (execute w c (a ++ ';' :: b)).outcome = .ok "p;q\nu;v\n".toList := by
  intro w c a b
  have ha : Text.isComplete a := by decide +kernel
  have h := (execute_append_separator (b := b) w ha (c := c) (by decide +kernel)).2
    (by decide +kernel) (by decide +kernel)
  have hfirst : (perform w (commands c a) c).fault = none := by decide +kernel
  have hsecond : (perform w (commands c b) (perform w (commands c a) c).state.context).fault =
      none := by decide +kernel
  dsimp only at h
  rw [hfirst, hsecond] at h
  exact ⟨ha, h.1.trans (congrArg Except.ok (by decide +kernel))⟩

end Shell

end LineShell
