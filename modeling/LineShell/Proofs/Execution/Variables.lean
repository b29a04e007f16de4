import LineShell.Proofs.Execution.Effect

/-! Commands write variables and never read them: a run that starts with other variables does the same
and makes the same assignments, which are then made on top of those. -/

namespace LineShell

namespace Variables

variable {m n : Text}

lemma lookup_setIn_self (n v : Text) (es : List (Text × Text)) :
    (setIn n v es).lookup n = some v := by
  induction es with
  | nil => simp [setIn]
  | cons e es ih =>
    obtain ⟨k, u⟩ := e
    by_cases hk : k = n
    · simp [setIn, hk]
    · simp [setIn, hk, List.lookup_cons, beq_false_of_ne (Ne.symm hk), ih]

lemma lookup_setIn_of_ne (h : m ≠ n) (v : Text) (es : List (Text × Text)) :
    (setIn n v es).lookup m = es.lookup m := by
  induction es with
  | nil => simp [setIn, List.lookup_cons, beq_false_of_ne h]
  | cons e es ih =>
    obtain ⟨k, u⟩ := e
    by_cases hk : k = n
    · subst hk
      simp [setIn, List.lookup_cons, beq_false_of_ne h]
    · simp only [setIn, hk, if_false, List.lookup_cons, ih]

lemma get?_set_self (vs : Variables) (n v : Text) : (vs.set n v).get? n = some v :=
  lookup_setIn_self n v vs.entries

lemma get?_set_of_ne (h : m ≠ n) (vs : Variables) (v : Text) : (vs.set n v).get? m = vs.get? m :=
  lookup_setIn_of_ne h v vs.entries

def assign (vs : Variables) (bs : List (Text × Text)) : Variables :=
  bs.foldl (fun vs b => vs.set b.1 b.2) vs

-- Where two tables of variables differ, an assignment wipes the difference out.
lemma get?_assign_eq {vs us : Variables} {bs : List (Text × Text)}
    (h : vs.get? n = us.get? n ∨ n ∈ bs.map Prod.fst) :
    (vs.assign bs).get? n = (us.assign bs).get? n := by
  induction bs generalizing vs us with
  | nil => simpa [assign] using h
  | cons b bs ih =>
    apply ih
    by_cases hn : n = b.1
    · subst hn
      simp only [get?_set_self, true_or]
    · simp only [get?_set_of_ne hn]
      simpa [hn] using h

end Variables

namespace State

def withVars (vs : Variables) (s : State) : State :=
  { s with context := { s.context with vars := vs } }

lemma apply_withVars (vs : Variables) (s : State) (x : Outcome) :
    (s.withVars vs).apply x = (s.apply x).withVars vs := by
  cases x <;> rfl

end State

namespace Command

variable {w : World} {k : Command} {s t : State}

lemma step_withVars (w : World) (k : Command) (vs : Variables) (s : State) :
    k.step w (s.withVars vs) =
      { k.step w s with
        outcome := (k.step w s).outcome.map (State.withVars (vs.assign k.binding?.toList)) } := by
  cases k with
  | simple name args =>
    have hinvoke := invoke_transform (f := State.withVars vs) (s := s) rfl rfl
      (State.apply_withVars vs s) w name args
    simp only [step, hinvoke]
    rfl
  | assign name value => rfl
  | flush => rfl

lemma outcome_withVars_error {f : Fault} (h : (k.step w s).outcome = .error f) (vs : Variables) :
    (k.step w (s.withVars vs)).outcome = .error f := by
  rw [step_withVars, h]
  rfl

lemma outcome_withVars_ok (h : (k.step w s).outcome = .ok t) (vs : Variables) :
    (k.step w (s.withVars vs)).outcome = .ok (t.withVars (vs.assign k.binding?.toList)) := by
  rw [step_withVars, h]
  rfl

end Command

namespace Run

variable {α : Type}

def completed (step : α → State → Step) : List α → State → List α
  | [], _ => []
  | k :: ks, s =>
    match (step k s).outcome with
    | .error _ => []
    | .ok t => k :: completed step ks t

section

variable {step : α → State → Step} {k : α} {ks : List α} {s t : State}

lemma completed_cons_error {f : Fault} (h : (step k s).outcome = .error f) :
    completed step (k :: ks) s = [] := by
  simp only [completed, h]

lemma completed_cons_ok (h : (step k s).outcome = .ok t) :
    completed step (k :: ks) s = k :: completed step ks t := by
  simp only [completed, h]

end

def assignments (w : World) (ks : List Command) (s : State) : List (Text × Text) :=
  (completed (Command.step w) ks s).filterMap Command.binding?

section

variable {w : World} {k : Command} {ks : List Command} {s t : State}

lemma assignments_cons_error {f : Fault} (h : (k.step w s).outcome = .error f) :
    assignments w (k :: ks) s = [] := by
  rw [assignments, completed_cons_error h, List.filterMap_nil]

lemma assignments_cons_ok (h : (k.step w s).outcome = .ok t) :
    assignments w (k :: ks) s = k.binding?.toList ++ assignments w ks t := by
  rw [assignments, completed_cons_ok h, List.filterMap_cons]
  cases k.binding? <;> rfl

end

variable (w : World) (ks : List Command) (vs : Variables) (s : State)

-- By induction on the commands, with the variables of both runs free: each step replaces them.
lemma all_withVars :
    all (Command.step w) ks (s.withVars vs) =
      { all (Command.step w) ks s with
        state := (all (Command.step w) ks s).state.withVars (vs.assign (assignments w ks s)) } := by
  induction ks generalizing vs s with
  | nil => rfl
  | cons k ks ih =>
    cases h : (k.step w s).outcome with
    | error f =>
      have hvs := Command.outcome_withVars_error h vs
      rw [all_cons_error h, all_cons_error hvs, assignments_cons_error h, Command.step_withVars]
      rfl
    | ok t =>
      have hvs := Command.outcome_withVars_ok h vs
      rw [all_cons_ok h, all_cons_ok hvs, assignments_cons_ok h, ih, Command.step_withVars]
      simp only [Variables.assign, List.foldl_append]

lemma assignments_withVars : assignments w ks (s.withVars vs) = assignments w ks s := by
  induction ks generalizing vs s with
  | nil => rfl
  | cons k ks ih =>
    cases h : (k.step w s).outcome with
    | error f =>
      rw [assignments_cons_error h, assignments_cons_error (Command.outcome_withVars_error h vs)]
    | ok t =>
      rw [assignments_cons_ok h, assignments_cons_ok (Command.outcome_withVars_ok h vs), ih]

lemma vars_all :
    (all (Command.step w) ks s).state.context.vars =
      s.context.vars.assign (assignments w ks s) :=
  congrArg (fun r : Run => r.state.context.vars) (all_withVars w ks s.context.vars s)

end Run

end LineShell
