import LineShell.Proofs.Execution.Run
import LineShell.Proofs.Outcome
import Mathlib.Data.List.Basic

namespace LineShell

namespace Builtin

lemma ofName?_eq_some_iff {t : Text} {b : Builtin} : ofName? t = some b ↔ b.name = t := by
  constructor
  · intro h
    simpa using List.find?_some h
  · rintro rfl
    cases b <;> decide

lemma run_eq_ok_cases {s : Site} {args : List Text} {pipe : Option Text} {b : Builtin}
    {x : Outcome} (h : b.run s args pipe = .ok x) :
    (b ≠ .cd ∧ ∃ v, x = .value v) ∨ (b = .cd ∧ ∃ d, s.cd args = .ok d ∧ x = .moved d) := by
  cases b with
  | cd =>
    obtain ⟨d, hd, rfl⟩ := map_eq_ok_iff.mp h
    exact Or.inr ⟨rfl, d, hd, rfl⟩
  | cat | grep | wc =>
    obtain ⟨v, -, rfl⟩ := map_eq_ok_iff.mp h
    exact Or.inl ⟨by simp, _, rfl⟩
  | echo | pwd =>
    obtain rfl := Except.ok.inj h
    exact Or.inl ⟨by simp, _, rfl⟩
  | exit => cases h

end Builtin

namespace Command

def binding? : Command → Option (Text × Text)
  | .assign name value => some (name, value)
  | .simple .. | .flush => none

def program? : Command → Option (List Text)
  | .simple name args => if (Builtin.ofName? name).isNone then some (name :: args) else none
  | .assign .. | .flush => none

def directory (w : World) (cwd : Text) : Command → Text
  | .simple name args =>
    if name = Builtin.cd.name then
      match Site.cd ⟨w, cwd⟩ args with
      | .ok d => d
      | .error _ => cwd
    else cwd
  | .assign .. | .flush => cwd

def call? (s : State) (c : Command) : Option Call :=
  c.program?.bind fun argv =>
    if argv.any (·.contains '\x00') then none else some ⟨argv, s.pipe.getD [], s.context.cwd⟩

/-- The context that commands leave behind: their assignments in order, and their moves. -/
structure Leaves (w : World) (c : Context) (ks : List Command) (d : Context) : Prop where
  vars : d.vars = (ks.filterMap binding?).foldl (fun vs b => vs.set b.1 b.2) c.vars
  cwd : d.cwd = ks.foldl (directory w) c.cwd

section

variable {w : World} {s t : State} {name : Text} {args : List Text}

lemma program?_of_builtin {b : Builtin} (hb : Builtin.ofName? name = some b) :
    program? (.simple name args) = none := by
  simp [program?, hb]

lemma program?_of_none (hb : Builtin.ofName? name = none) :
    program? (.simple name args) = some (name :: args) := by
  simp [program?, hb]

lemma call?_of_builtin {b : Builtin} (hb : Builtin.ofName? name = some b) :
    call? s (.simple name args) = none := by
  rw [call?, program?_of_builtin hb, Option.bind_none]

lemma external_calls (hb : Builtin.ofName? name = none) :
    (Site.external ⟨w, s.context.cwd⟩ name args s.pipe).1 = (call? s (.simple name args)).toList := by
  rw [call?, program?_of_none hb, Option.bind_some, Site.external]
  split <;> rfl

lemma directory_of_program (hb : Builtin.ofName? name = none) (cwd : Text) :
    directory w cwd (.simple name args) = cwd := by
  refine if_neg fun hname => ?_
  rw [Builtin.ofName?_eq_some_iff.mpr hname.symm] at hb
  cases hb

lemma step_calls (w : World) (s : State) (k : Command) :
    (k.step w s).calls = (k.call? s).toList := by
  cases k with
  | simple name args =>
    change (invoke w name args s).calls = _
    cases hb : Builtin.ofName? name with
    | some b => rw [invoke_builtin hb, call?_of_builtin hb, Option.toList_none]
    | none =>
      rw [← external_calls (w := w) hb]
      cases hx : Site.external ⟨w, s.context.cwd⟩ name args s.pipe with
      | mk calls outcome =>
        cases outcome with
        | error f => rw [invoke_program_error hb hx]
        | ok r => rw [invoke_program_ok hb hx]
  | assign name value => rfl
  | flush => rfl

lemma step_context_builtin {b : Builtin} (hb : Builtin.ofName? name = some b)
    (h : (step w (.simple name args) s).outcome = .ok t) :
    t.context = ⟨directory w s.context.cwd (.simple name args), s.context.vars⟩ := by
  have hname := Builtin.ofName?_eq_some_iff.mp hb
  change (invoke w name args s).outcome = _ at h
  rw [invoke_builtin hb] at h
  obtain ⟨x, hx, rfl⟩ := map_eq_ok_iff.mp h
  rcases Builtin.run_eq_ok_cases hx with ⟨hne, v, rfl⟩ | ⟨rfl, d, hd, rfl⟩
  · have hdir : directory w s.context.cwd (.simple name args) = s.context.cwd := by
      refine if_neg fun hcd => hne ?_
      have hsome := Builtin.ofName?_eq_some_iff.mpr hcd.symm
      exact Option.some.inj (hb.symm.trans hsome)
    rw [hdir]
    rfl
  · have hdir : directory w s.context.cwd (.simple name args) = d := by
      simp only [directory, hname, hd, if_true]
    rw [hdir]
    rfl

lemma step_context {k : Command} (h : (k.step w s).outcome = .ok t) :
    t.context = ⟨directory w s.context.cwd k,
      (k.binding?.toList).foldl (fun vs b => vs.set b.1 b.2) s.context.vars⟩ := by
  cases k with
  | simple name args =>
    cases hb : Builtin.ofName? name with
    | some b => exact step_context_builtin hb h
    | none =>
      rw [directory_of_program hb]
      change (invoke w name args s).outcome = _ at h
      cases hx : Site.external ⟨w, s.context.cwd⟩ name args s.pipe with
      | mk calls outcome =>
        cases outcome with
        | error f =>
          rw [invoke_program_error hb hx] at h
          cases h
        | ok r =>
          rw [invoke_program_ok hb hx] at h
          obtain rfl := Except.ok.inj h
          rfl
  | assign name value =>
    obtain rfl := Except.ok.inj h
    rfl
  | flush =>
    obtain rfl := Except.ok.inj h
    rfl

lemma program?_of_step_ok {k : Command} (h : (k.step w s).outcome = .ok t) :
    k.program? = (k.call? s).map (·.argv) := by
  cases k with
  | simple name args =>
    cases hb : Builtin.ofName? name with
    | some b => rw [program?_of_builtin hb, call?_of_builtin hb, Option.map_none]
    | none =>
      rw [call?, program?_of_none hb, Option.bind_some]
      split
      · rename_i hnull
        have hx : Site.external ⟨w, s.context.cwd⟩ name args s.pipe =
            ([], .error (.breakdown .nullByte)) := if_pos hnull
        change (invoke w name args s).outcome = _ at h
        rw [invoke_program_error hb hx] at h
        cases h
      · rfl
  | assign name value => rfl
  | flush => rfl

end

end Command

namespace Run

variable {α : Type} {step : α → State → Step} {s : State}

lemma consumed_of_none {ks : List α} (h : (all step ks s).fault = none) :
    (all step ks s).consumed = ks.length := by
  induction ks generalizing s with
  | nil => rfl
  | cons k ks ih =>
    cases hk : (step k s).outcome with
    | error f =>
      rw [all_cons_error hk] at h
      cases h
    | ok t =>
      rw [all_cons_ok hk] at h ⊢
      exact congrArg (· + 1) (ih h)

lemma all_of_stop {pre post : List α} {k : α} {f : Fault} (hpre : (all step pre s).fault = none)
    (hk : (step k (all step pre s).state).outcome = .error f) :
    all step (pre ++ k :: post) s =
      ⟨(all step pre s).state, (all step pre s).calls ++ (step k (all step pre s).state).calls,
        (all step pre s).remarks ++ (step k (all step pre s).state).remarks,
        pre.length + 1, some f⟩ := by
  rw [all_append, andThen_of_none hpre, all_cons_error hk, consumed_of_none hpre]

lemma leaves_all {w : World} {ks : List Command}
    (h : (all (Command.step w) ks s).fault = none) :
    Command.Leaves w s.context ks (all (Command.step w) ks s).state.context := by
  induction ks generalizing s with
  | nil => exact ⟨rfl, rfl⟩
  | cons k ks ih =>
    cases hk : (Command.step w k s).outcome with
    | error f =>
      rw [all_cons_error hk] at h
      cases h
    | ok t =>
      rw [all_cons_ok hk] at h ⊢
      have hrest := ih h
      have hcontext := Command.step_context hk
      refine ⟨?_, ?_⟩
      · rw [hrest.vars, hcontext, List.filterMap_cons]
        cases k.binding? <;> rfl
      · rw [hrest.cwd, hcontext, List.foldl_cons]

end Run

end LineShell
