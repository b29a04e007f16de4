import LineShell.Execution.Run
import Mathlib.Tactic.Lemma

namespace LineShell

namespace Run

def andThen (r : Run) (next : State → Run) : Run :=
  match r.fault with
  | some _ => r
  | none =>
    { state := (next r.state).state
      calls := r.calls ++ (next r.state).calls
      remarks := r.remarks ++ (next r.state).remarks
      consumed := r.consumed + (next r.state).consumed
      fault := (next r.state).fault }

lemma andThen_of_fault {r : Run} {f : Fault} (h : r.fault = some f) (next : State → Run) :
    r.andThen next = r := by
  simp only [andThen, h]

lemma andThen_of_none {r : Run} (h : r.fault = none) (next : State → Run) :
    r.andThen next = ⟨(next r.state).state, r.calls ++ (next r.state).calls,
      r.remarks ++ (next r.state).remarks, r.consumed + (next r.state).consumed,
      (next r.state).fault⟩ := by
  simp only [andThen, h]

variable {α : Type} {step : α → State → Step}

lemma all_cons_error {c : α} {s : State} {f : Fault} (h : (step c s).outcome = .error f)
    (cs : List α) : all step (c :: cs) s = ⟨s, (step c s).calls, (step c s).remarks, 1, some f⟩ := by
  simp only [all, h]

lemma all_cons_ok {c : α} {s t : State} (h : (step c s).outcome = .ok t) (cs : List α) :
    all step (c :: cs) s =
      ⟨(all step cs t).state, (step c s).calls ++ (all step cs t).calls,
        (step c s).remarks ++ (all step cs t).remarks, (all step cs t).consumed + 1,
        (all step cs t).fault⟩ := by
  simp only [all, h]

lemma all_append (cs ds : List α) (s : State) :
    all step (cs ++ ds) s = (all step cs s).andThen (all step ds) := by
  induction cs generalizing s with
  | nil => simp [all, andThen]
  | cons c cs ih =>
    cases h : (step c s).outcome with
    | error f =>
      rw [List.cons_append, all_cons_error h, all_cons_error h]
      rfl
    | ok t =>
      rw [List.cons_append, all_cons_ok h, all_cons_ok h, ih]
      cases hf : (all step cs t).fault with
      | some f => rw [andThen_of_fault hf, andThen_of_fault (f := f) rfl, hf]
      | none =>
        rw [andThen_of_none hf, andThen_of_none rfl]
        simp [Nat.add_right_comm]

lemma all_invariant {P : State → Prop} (hstep : ∀ c s t, P s → (step c s).outcome = .ok t → P t)
    (cs : List α) {s : State} (hs : P s) : P (all step cs s).state := by
  induction cs generalizing s with
  | nil => exact hs
  | cons c cs ih =>
    cases h : (step c s).outcome with
    | error f =>
      rw [all_cons_error h]
      exact hs
    | ok t =>
      rw [all_cons_ok h]
      exact ih (hstep c s t hs h)

/-- A run is stopped by the first command that stops it, in the state that those before it
reached. -/
lemma fault_all_iff {f : Fault} (cs : List α) (s : State) :
    (all step cs s).fault = some f ↔
      ∃ pre c post, cs = pre ++ c :: post ∧ (all step pre s).fault = none ∧
        (step c (all step pre s).state).outcome = .error f := by
  induction cs generalizing s with
  | nil => simp [all]
  | cons c cs ih =>
    cases h : (step c s).outcome with
    | error f' =>
      rw [all_cons_error h]
      constructor
      · intro hf
        cases hf
        exact ⟨[], c, cs, rfl, rfl, h⟩
      · rintro ⟨pre, d, post, hcs, hpre, hd⟩
        cases pre with
        | nil =>
          obtain ⟨rfl, rfl⟩ := List.cons.inj hcs
          rw [← Except.error.inj (h.symm.trans hd)]
        | cons e pre =>
          obtain ⟨rfl, -⟩ := List.cons.inj hcs
          rw [all_cons_error h] at hpre
          cases hpre
    | ok t =>
      rw [all_cons_ok h]
      refine (ih t).trans ⟨?_, ?_⟩
      · rintro ⟨pre, d, post, rfl, hpre, hd⟩
        refine ⟨c :: pre, d, post, rfl, ?_, ?_⟩
        · rw [all_cons_ok h]
          exact hpre
        · rw [all_cons_ok h]
          exact hd
      · rintro ⟨pre, d, post, hcs, hpre, hd⟩
        cases pre with
        | nil =>
          obtain ⟨rfl, -⟩ := List.cons.inj hcs
          cases h.symm.trans hd
        | cons e pre =>
          obtain ⟨rfl, rfl⟩ := List.cons.inj hcs
          rw [all_cons_ok h] at hpre hd
          exact ⟨pre, d, post, rfl, hpre, hd⟩

end Run

namespace State

def prepend (o : Text) (s : State) : State :=
  { s with output := o ++ s.output }

lemma result_prepend (o : Text) (s : State) : (s.prepend o).result = o ++ s.result := by
  simp [result, prepend, tail]

lemma apply_prepend (o : Text) (s : State) (x : Outcome) :
    (s.prepend o).apply x = (s.apply x).prepend o := by
  cases x <;> rfl

lemma flush_prepend (o : Text) (s : State) : (s.prepend o).flush = s.flush.prepend o := by
  simp [flush, prepend, tail]

lemma flush_eq_prepend (s : State) : s.flush = prepend s.result { context := s.context } := by
  simp [flush, prepend, result]

lemma flush_of_pipe_none {s : State} (h : s.pipe = none) : s.flush = s := by
  obtain ⟨context, pipe, output⟩ := s
  subst h
  simp [flush, tail, Text.withFinalNewline]

end State

namespace Command

lemma invoke_builtin {name : Text} {b : Builtin} (hb : Builtin.ofName? name = some b) (w : World)
    (args : List Text) (s : State) :
    invoke w name args s =
      { remarks := (b.warnings w args).map .warning
        outcome := (b.run ⟨w, s.context.cwd⟩ args s.pipe).map s.apply } := by
  simp only [invoke, hb]

lemma invoke_program_error {w : World} {name : Text} {args : List Text} {s : State}
    {calls : List Call} {f : Fault} (hb : Builtin.ofName? name = none)
    (hx : Site.external ⟨w, s.context.cwd⟩ name args s.pipe = (calls, .error f)) :
    invoke w name args s = { calls := calls, outcome := .error f } := by
  simp only [invoke, hb, hx]

lemma invoke_program_ok {w : World} {name : Text} {args : List Text} {s : State}
    {calls : List Call} {text : Text} {status : Int} (hb : Builtin.ofName? name = none)
    (hx : Site.external ⟨w, s.context.cwd⟩ name args s.pipe = (calls, .ok (text, status))) :
    invoke w name args s =
      { calls := calls
        remarks := calls.map (fun k => .aside (w.errorsOf k)) ++
          if status = 0 then [] else [.note (.exited name status)]
        outcome := .ok (s.withPipe (some text)) } := by
  simp only [invoke, hb, hx]

lemma invoke_transform {f : State → State} {s : State} (hcwd : (f s).context.cwd = s.context.cwd)
    (hpipe : (f s).pipe = s.pipe) (happly : ∀ x, (f s).apply x = f (s.apply x)) (w : World)
    (name : Text) (args : List Text) :
    invoke w name args (f s) =
      { invoke w name args s with outcome := (invoke w name args s).outcome.map f } := by
  cases hb : Builtin.ofName? name with
  | some b =>
    rw [invoke_builtin hb, invoke_builtin hb, hcwd, hpipe]
    cases b.run ⟨w, s.context.cwd⟩ args s.pipe with
    | error e => rfl
    | ok x => simp only [Except.map, happly]
  | none =>
    cases hx : Site.external ⟨w, s.context.cwd⟩ name args s.pipe with
    | mk calls outcome =>
      have hfx : Site.external ⟨w, (f s).context.cwd⟩ name args (f s).pipe = (calls, outcome) := by
        rw [hcwd, hpipe, hx]
      cases outcome with
      | error e =>
        rw [invoke_program_error hb hx, invoke_program_error hb hfx]
        rfl
      | ok r =>
        rw [invoke_program_ok hb hx, invoke_program_ok hb hfx]
        exact congrArg (fun t => Step.mk calls _ (.ok t)) (happly (.value (some r.1)))

lemma invoke_prepend (w : World) (name : Text) (args : List Text) (o : Text) (s : State) :
    invoke w name args (s.prepend o) =
      { invoke w name args s with
        outcome := (invoke w name args s).outcome.map (State.prepend o) } :=
  invoke_transform rfl rfl (State.apply_prepend o s) w name args

lemma step_prepend (w : World) (c : Command) (o : Text) (s : State) :
    step w c (s.prepend o) =
      { step w c s with outcome := (step w c s).outcome.map (State.prepend o) } := by
  cases c with
  | simple name args => simp only [step, invoke_prepend]
  | assign name value => rfl
  | flush => simp [step, Except.map, State.flush_prepend]

end Command

namespace Run

lemma all_prepend (w : World) (cs : List Command) (o : Text) (s : State) :
    all (Command.step w) cs (s.prepend o) =
      { all (Command.step w) cs s with state := (all (Command.step w) cs s).state.prepend o } := by
  induction cs generalizing s with
  | nil => rfl
  | cons c cs ih =>
    have hstep := Command.step_prepend w c o s
    cases h : (Command.step w c s).outcome with
    | error f =>
      have ho : (Command.step w c (s.prepend o)).outcome = .error f := by rw [hstep, h]; rfl
      rw [all_cons_error h, all_cons_error ho, hstep]
    | ok t =>
      have ho : (Command.step w c (s.prepend o)).outcome = .ok (t.prepend o) := by
        rw [hstep, h]
        rfl
      rw [all_cons_ok h, all_cons_ok ho, ih, hstep]

end Run

end LineShell
