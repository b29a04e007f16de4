import LineShell.Proofs.Execution.Effect
import LineShell.Proofs.Lexeme.Decomposition
import LineShell.Proofs.Shell.Line
import Mathlib.Data.List.Induction

namespace LineShell.Shell

def callsOf (w : World) (c : Context) (ks : List Command) : List Call :=
  ks.zipIdx.filterMap fun x => x.1.call? (perform w (ks.take x.2) c).state

section

variable {w : World} {c : Context} {ks : List Command}

lemma callsOf_append_singleton (w : World) (c : Context) (ks : List Command) (k : Command) :
    callsOf w c (ks ++ [k]) = callsOf w c ks ++ (k.call? (perform w ks c).state).toList := by
  have hbefore : ∀ x ∈ ks.zipIdx,
      x.1.call? (perform w ((ks ++ [k]).take x.2) c).state =
        x.1.call? (perform w (ks.take x.2) c).state := by
    intro x hx
    have hi : x.2 < ks.length := by simpa using List.snd_lt_of_mem_zipIdx hx
    rw [List.take_append_of_le_length hi.le]
  have hlast : [k].zipIdx (0 + ks.length) = [(k, ks.length)] := by simp
  rw [callsOf, List.zipIdx_append, List.filterMap_append, List.filterMap_congr hbefore, hlast]
  congr 1
  cases hk : k.call? (perform w ks c).state <;> simp [hk]

lemma perform_append (w : World) (c : Context) (ks ms : List Command) :
    perform w (ks ++ ms) c = (perform w ks c).andThen (Run.all (Command.step w) ms) :=
  Run.all_append ks ms _

lemma perform_append_singleton {k : Command} (h : (perform w (ks ++ [k]) c).fault = none) :
    (perform w ks c).fault = none ∧
      ∃ t, (k.step w (perform w ks c).state).outcome = .ok t ∧
        (perform w (ks ++ [k]) c).calls =
          (perform w ks c).calls ++ (k.call? (perform w ks c).state).toList := by
  rw [perform_append] at h ⊢
  cases hf : (perform w ks c).fault with
  | some f =>
    rw [Run.andThen_of_fault hf] at h
    cases hf.symm.trans h
  | none =>
    rw [Run.andThen_of_none hf] at h ⊢
    cases hk : (k.step w (perform w ks c).state).outcome with
    | error f =>
      rw [Run.all_cons_error hk] at h
      cases h
    | ok t =>
      refine ⟨rfl, t, rfl, ?_⟩
      rw [Run.all_cons_ok hk, Command.step_calls]
      simp [Run.all]

-- By induction from the end: the last command makes its call in the state that all others reach.
lemma calls_perform (h : (perform w ks c).fault = none) :
    (perform w ks c).calls = callsOf w c ks ∧
      (callsOf w c ks).map (·.argv) = ks.filterMap Command.program? := by
  induction ks using List.reverseRecOn with
  | nil => exact ⟨rfl, rfl⟩
  | append_singleton ks k ih =>
    obtain ⟨hks, t, hk, hcalls⟩ := perform_append_singleton h
    obtain ⟨hsame, hargv⟩ := ih hks
    rw [callsOf_append_singleton, List.map_append, List.filterMap_append, hargv, hcalls, hsame]
    refine ⟨rfl, congrArg _ ?_⟩
    have hprogram := Command.program?_of_step_ok hk
    cases hcall : k.call? (perform w ks c).state <;> simp [hcall] at hprogram <;> simp [hprogram]

end

theorem execute_stops_at_fault (w : World) (c : Context) (line : Text) :
    -- No scan of a line stops at an open quote, so only the parser refuses lines.
    ((line.scan false false).fault = none ∧
      (∀ l ∈ line.lexemes, (l.value.scan false true).fault = none) ∧
      ((line.expand c.get?).scan false false).fault = none) ∧
    (∀ f, (execute w c line).outcome = .error (.parse f) ↔ (parse c line).fault = some f) ∧
    (∀ f, (execute w c line).outcome = .error (.parse f) →
      (execute w c line).context = c ∧ (execute w c line).calls = []) ∧
    ((parse c line).fault = none →
      (∀ pre k post f, commands c line = pre ++ k :: post → (perform w pre c).fault = none →
        (k.step w (perform w pre c).state).outcome = .error f →
          (execute w c line).outcome = .error (.run f) ∧
          Command.Leaves w c pre (execute w c line).context ∧
          (execute w c line).calls =
            callsOf w c pre ++ (k.call? (perform w pre c).state).toList ∧
          (callsOf w c pre).map (·.argv) = pre.filterMap Command.program? ∧
          (perform w (commands c line) c).consumed = pre.length + 1) ∧
      ((∀ pre k post, commands c line = pre ++ k :: post → (perform w pre c).fault = none →
        ∃ t, (k.step w (perform w pre c).state).outcome = .ok t) →
          (execute w c line).outcome = .ok (perform w (commands c line) c).state.result ∧
          Command.Leaves w c (commands c line) (execute w c line).context ∧
          (execute w c line).calls = callsOf w c (commands c line) ∧
          (callsOf w c (commands c line)).map (·.argv) =
            (commands c line).filterMap Command.program? ∧
          (perform w (commands c line) c).consumed = (commands c line).length)) := by
  have hparse : ∀ f, (execute w c line).outcome = .error (.parse f) ↔
      (parse c line).fault = some f := by
    intro f
    cases hp : (parse c line).fault with
    | some e => simp [execute_of_parse_fault hp]
    | none =>
      rw [(execute_of_parses hp).2.2]
      cases (perform w (commands c line) c).fault <;> simp
  refine ⟨⟨?_, fun l _ => ?_, ?_⟩, hparse, fun f hf => ?_, fun hparses => ⟨?_, ?_⟩⟩
  · exact Scan.fault_permissive false 0 line
  · exact Scan.fault_permissive true 0 l.value
  · exact Scan.fault_permissive false 0 _
  · have hfault := (hparse f).mp hf
    simp [execute, hfault]
  · intro pre k post f hks hpre hk
    have hrun : perform w (commands c line) c = _ := hks ▸ Run.all_of_stop hpre hk
    obtain ⟨hcontext, hcalls, houtcome⟩ := execute_of_parses (w := w) hparses
    obtain ⟨hbefore, hargv⟩ := calls_perform hpre
    rw [hrun] at hcontext hcalls houtcome ⊢
    refine ⟨houtcome, ?_, ?_, hargv, rfl⟩
    · rw [hcontext]
      exact Run.leaves_all hpre
    · rw [hcalls, ← hbefore, Command.step_calls]
      rfl
  · intro hall
    have hnone : (perform w (commands c line) c).fault = none := by
      rw [Option.eq_none_iff_forall_ne_some]
      intro f hf
      obtain ⟨pre, k, post, hks, hpre, hk⟩ := (Run.fault_all_iff _ _).mp hf
      obtain ⟨t, ht⟩ := hall pre k post hks hpre
      cases hk.symm.trans ht
    obtain ⟨hcontext, hcalls, houtcome⟩ := execute_of_parses (w := w) hparses
    obtain ⟨hbefore, hargv⟩ := calls_perform hnone
    rw [hnone] at houtcome
    refine ⟨houtcome, ?_, hcalls.trans hbefore, hargv, Run.consumed_of_none hnone⟩
    rw [hcontext]
    exact Run.leaves_all hnone

-- A program is called in the directory that `cd` led to and reads what was piped to it; the missing
-- file then stops the line before the second assignment.
theorem execute_stops_at_fault_missing :
    let w : World :=
      { processCwd := ['/'], home := none, tree := .ofPaths [] ["/d".toList]
        programs := [(['p'], .runs [] [] true 0)] }
    let line := "x=1;cd d;echo i|p a|cat f;y=2".toList
    (execute w ⟨['/'], {}⟩ line).outcome =
      .error (.run (.failure (.unreadable "cat".toList ['f'] .noEntry))) ∧
    (execute w ⟨['/'], {}⟩ line).context = ⟨"/d".toList, ⟨[(['x'], ['1'])]⟩⟩ ∧
    (execute w ⟨['/'], {}⟩ line).calls = [⟨[['p'], ['a']], "i\n".toList, "/d".toList⟩] := by
  intro w line
  have hparses : (parse ⟨['/'], {}⟩ line).fault = none := by decide +kernel
  have hks : commands ⟨['/'], {}⟩ line =
      [.assign ['x'] ['1'], .flush, .simple "cd".toList [['d']], .flush,
        .simple "echo".toList [['i']], .simple ['p'] [['a']]] ++
      .simple "cat".toList [['f']] :: [.flush, .assign ['y'] ['2']] := by decide +kernel
  obtain ⟨houtcome, hleaves, hcalls, -, -⟩ :=
    ((execute_stops_at_fault w ⟨['/'], {}⟩ line).2.2.2 hparses).1 _ _ _
      (.failure (.unreadable "cat".toList ['f'] .noEntry)) hks (by decide +kernel) (by decide +kernel)
  refine ⟨houtcome, ?_, hcalls.trans (by decide +kernel)⟩
  exact congrArg₂ Context.mk (hleaves.cwd.trans (by decide +kernel))
    (hleaves.vars.trans (by decide +kernel))

end LineShell.Shell
