import LineShell.Proofs.Execution.Run
import LineShell.Proofs.Outcome

/-! Commands run chain by chain. A flush ends a chain; within a chain each command receives what the
one before it returned, and what the last one returned goes to the output as whole lines. -/

namespace LineShell

namespace Text

def EndsLine (t : Text) : Prop :=
  t = [] ∨ t.getLast? = some '\n'

lemma endsLine_withFinalNewline (t : Text) : EndsLine t.withFinalNewline := by
  unfold withFinalNewline
  split
  · exact Or.inl rfl
  · rename_i c hc
    split
    · rename_i hnewline
      exact Or.inr (hnewline ▸ hc)
    · exact Or.inr List.getLast?_concat

lemma EndsLine.append {s t : Text} (hs : EndsLine s) (ht : EndsLine t) : EndsLine (s ++ t) := by
  rcases ht with rfl | ht
  · rwa [List.append_nil]
  · exact Or.inr (by rw [List.getLast?_append, ht, Option.some_or])

lemma endsLine_flatMap {α : Type} {f : α → Text} (hf : ∀ a, EndsLine (f a)) (as : List α) :
    EndsLine (as.flatMap f) := by
  induction as with
  | nil => exact Or.inl rfl
  | cons a as ih => exact (hf a).append ih

end Text

def Command.answer (w : World) (name : Text) (args : List Text) (c : Context)
    (received : Option Text) : Except Fault (Context × Option Text) :=
  match Builtin.ofName? name with
  | some b =>
    (b.run ⟨w, c.cwd⟩ args received).map fun
      | .value v => (c, v)
      | .moved cwd => ({ c with cwd := cwd }, none)
  | none => (Site.external ⟨w, c.cwd⟩ name args received).2.map fun r => (c, some r.1)

namespace Task

def isFlush (t : Task) : Bool :=
  t = .command .flush

def answer (w : World) (t : Task) (c : Context) (received : Option Text) :
    Except Fault (Context × Option Text) :=
  match t with
  | .command (.simple name args) => Command.answer w name args c received
  | .command (.assign name value) => .ok (c.set name value, none)
  | .command .flush => .ok (c, received)
  | .emit value => .ok (c, value)
  | .undefined => .error (.breakdown .undefined)

def chain (w : World) (ts : List Task) (c : Context) (start : Option Text) :
    Except Fault (Context × Option Text) :=
  ts.foldlM (fun r t => t.answer w r.1 r.2) (c, start)

/-- The values of chains in order. Contexts are handed on, pipe values are not. -/
def chains (w : World) : List (List Task) → Context → Option Text →
    Except Fault (Context × List (Option Text))
  | [], c, _ => .ok (c, [])
  | ts :: tss, c, start => do
    let r ← chain w ts c start
    let more ← chains w tss r.1 none
    return (more.1, r.2 :: more.2)

end Task

def Run.ending (r : Run) : Except Fault (Context × Text) :=
  match r.fault with
  | some f => .error f
  | none => .ok (r.state.context, r.state.result)

/-- A value as the output has it: an absent one adds nothing, nor does an empty one, and any other
ends with a line break. -/
def shown : Option Text → Text
  | none => []
  | some t => if t = [] ∨ ['\n'] <:+ t then t else t ++ ['\n']

lemma withFinalNewline_getD (value : Option Text) :
    (value.getD []).withFinalNewline = shown value := by
  cases value with
  | none => rfl
  | some t =>
    rw [Option.getD_some, Text.withFinalNewline, shown]
    rcases List.eq_nil_or_concat t with rfl | ⟨s, c, rfl⟩
    · rfl
    · have hsuffix : ['\n'] <:+ s ++ [c] ↔ c = '\n' := by
        constructor
        · rintro ⟨t, ht⟩
          obtain ⟨-, hlast⟩ := List.append_inj' ht rfl
          exact (List.singleton_inj.mp hlast).symm
        · rintro rfl
          exact List.suffix_append s _
      simp [hsuffix]

lemma endsLine_shown (value : Option Text) : (shown value).EndsLine := by
  rw [← withFinalNewline_getD]
  exact Text.endsLine_withFinalNewline _

lemma State.result_flush (s : State) : s.flush.result = s.result := by
  simp [flush, result, tail, Text.withFinalNewline]

lemma Command.invoke_eq_answer (w : World) (name : Text) (args : List Text) (s : State) :
    (invoke w name args s).outcome =
      (answer w name args s.context s.pipe).map fun r => ⟨r.1, r.2, s.output⟩ := by
  cases hb : Builtin.ofName? name with
  | some b =>
    rw [invoke_builtin hb]
    simp only [answer, hb]
    cases b.run ⟨w, s.context.cwd⟩ args s.pipe with
    | error f => rfl
    | ok x => cases x <;> rfl
  | none =>
    cases hx : Site.external ⟨w, s.context.cwd⟩ name args s.pipe with
    | mk calls outcome =>
      cases outcome with
      | error f =>
        rw [invoke_program_error hb hx]
        simp only [answer, hb, hx]
        rfl
      | ok r =>
        rw [invoke_program_ok hb hx]
        simp only [answer, hb, hx]
        rfl

namespace Task

lemma step_eq_answer {w : World} {t : Task} (ht : t.isFlush = false) (s : State) :
    (t.step w s).outcome = (t.answer w s.context s.pipe).map fun r => ⟨r.1, r.2, s.output⟩ := by
  cases t with
  | command c =>
    cases c with
    | simple name args => exact Command.invoke_eq_answer w name args s
    | assign name value => rfl
    | flush => simp [isFlush] at ht
  | emit value => rfl
  | undefined => rfl

section

variable (w : World) (c : Context) (p : Option Text) (ts : List Task) (tss : List (List Task))

lemma chains_nil_cons :
    chains w ([] :: tss) c p = (chains w tss c none).map fun r => (r.1, p :: r.2) := by
  change (chains w tss c none >>= fun more => .ok (more.1, p :: more.2)) = _
  cases chains w tss c none <;> rfl

lemma chains_cons_cons (t : Task) :
    chains w ((t :: ts) :: tss) c p = t.answer w c p >>= fun r => chains w (ts :: tss) r.1 r.2 := by
  simp only [chains, chain, List.foldlM_cons, bind_assoc]

lemma splitOnP_flush : (.command .flush :: ts).splitOnP isFlush = [] :: ts.splitOnP isFlush := by
  rw [List.splitOnP_cons_eq_if_modifyHead, if_pos (by decide)]

end

lemma exists_splitOnP_cons {t : Task} (ht : t.isFlush = false) (ts : List Task) :
    ∃ us uss, ts.splitOnP isFlush = us :: uss ∧
      (t :: ts).splitOnP isFlush = (t :: us) :: uss := by
  obtain ⟨us, uss, hts⟩ := List.exists_cons_of_ne_nil (List.splitOnP_ne_nil isFlush ts)
  refine ⟨us, uss, hts, ?_⟩
  rw [List.splitOnP_cons_eq_if_modifyHead, if_neg (by simp [ht]), hts]
  rfl

section

variable {w : World} {t : Task} {s s' : State}

lemma ending_cons_error {f : Fault} (h : (t.step w s).outcome = .error f) (ts : List Task) :
    (Run.all (Task.step w) (t :: ts) s).ending = .error f := by
  rw [Run.all_cons_error h]
  rfl

lemma ending_cons_ok (h : (t.step w s).outcome = .ok s') (ts : List Task) :
    (Run.all (Task.step w) (t :: ts) s).ending = (Run.all (Task.step w) ts s').ending := by
  rw [Run.all_cons_ok h]
  rfl

end

lemma ending_all (w : World) (ts : List Task) (c : Context) (p : Option Text) (o : Text) :
    (Run.all (Task.step w) ts ⟨c, p, o⟩).ending =
      (chains w (ts.splitOnP isFlush) c p).map fun r => (r.1, o ++ r.2.flatMap shown) := by
  induction ts generalizing c p o with
  | nil =>
    rw [List.splitOnP_nil, chains_nil_cons]
    simp [chains, Except.map, Run.all, Run.ending, State.result, State.tail, withFinalNewline_getD]
  | cons t ts ih =>
    cases ht : t.isFlush with
    | true =>
      obtain rfl : t = .command .flush := by simpa [isFlush] using ht
      have hflush : (Task.step w (.command .flush) ⟨c, p, o⟩).outcome =
          .ok ⟨c, none, o ++ shown p⟩ := by
        rw [← withFinalNewline_getD]
        rfl
      rw [splitOnP_flush, chains_nil_cons, ending_cons_ok hflush, ih]
      cases chains w (ts.splitOnP isFlush) c none with
      | error f => rfl
      | ok r => simp [Except.map]
    | false =>
      obtain ⟨us, uss, hts, htts⟩ := exists_splitOnP_cons ht ts
      have hstep := step_eq_answer (w := w) ht ⟨c, p, o⟩
      rw [htts, chains_cons_cons]
      cases hanswer : t.answer w c p with
      | error f =>
        rw [hanswer] at hstep
        exact ending_cons_error hstep ts
      | ok r =>
        rw [hanswer] at hstep
        rw [ending_cons_ok hstep, ih, hts]
        rfl

-- A flush moves the open chain to the output, where the result counted it already.
lemma ending_append_flush (w : World) (ts : List Task) (s : State) :
    (Run.all (Task.step w) (ts ++ [.command .flush]) s).ending =
      (Run.all (Task.step w) ts s).ending := by
  rw [Run.all_append]
  cases hf : (Run.all (Task.step w) ts s).fault with
  | some f => rw [Run.andThen_of_fault hf]
  | none =>
    rw [Run.andThen_of_none hf]
    simp only [Run.ending, hf]
    exact congrArg (fun o => Except.ok (_, o)) (State.result_flush _)

theorem ending_chainwise (w : World) (ts : List Task) (c : Context) (p : Option Text) (o : Text) :
    let run := Run.all (Task.step w) ts ⟨c, p, o⟩
    run.ending = (chains w (ts.splitOnP isFlush) c p).map (fun r => (r.1, o ++ r.2.flatMap shown)) ∧
    (Run.all (Task.step w) (ts ++ [.command .flush]) ⟨c, p, o⟩).ending = run.ending ∧
    ∀ d result, run.ending = .ok (d, result) → o.EndsLine → result.EndsLine := by
  have hending := ending_all w ts c p o
  refine ⟨hending, ending_append_flush w ts _, fun d result hresult ho => ?_⟩
  rw [hending] at hresult
  obtain ⟨r, -, hr⟩ := map_eq_ok_iff.mp hresult
  obtain ⟨-, rfl⟩ := Prod.mk.inj hr
  exact ho.append (Text.endsLine_flatMap endsLine_shown r.2)

end Task

end LineShell
