import LineShell.Proofs.Execution.Variables
import LineShell.Proofs.Lexeme.References
import LineShell.Proofs.Shell.Line

/-! What a line can learn of the variables: the values of those it refers to outside quotes or between
double quotes, an unset variable being as good as an empty one. All else that the variables hold
passes through the line unseen, except where the line assigns over it. -/

namespace LineShell

namespace Lexeme

variable {vars vars' : Bindings}

lemma resolve_congr {l : Lexeme}
    (h : l.kind = .ref → (vars l.name).getD [] = (vars' l.name).getD []) :
    l.resolve vars = l.resolve vars' := by
  by_cases hk : l.kind = .ref
  · rw [resolve_of_ref hk, resolve_of_ref hk, h hk]
  · rw [resolve_of_ne hk, resolve_of_ne hk]

lemma fill_congr {t : Text} (h : ∀ r ∈ t.references, r.kind = .ref →
    (vars r.name).getD [] = (vars' r.name).getD []) : fill vars t = fill vars' t := by
  have hresolve : t.references.map (resolve vars) = t.references.map (resolve vars') :=
    List.map_congr_left fun r hr => resolve_congr (h r hr)
  rw [fill, fill, hresolve]

def reads (l : Lexeme) : List Text :=
  match l.kind with
  | .ref => [l.name]
  | .double => (l.value.references.filter (·.kind = .ref)).map name
  | _ => []

lemma mem_reads_iff {l : Lexeme} {n : Text} :
    n ∈ l.reads ↔ l.kind = .ref ∧ l.name = n ∨
      l.kind = .double ∧ ∃ r ∈ l.value.references, r.kind = .ref ∧ r.name = n := by
  cases hk : l.kind with
  | ref => simp [reads, hk, eq_comm]
  | double => simp [reads, hk, and_assoc]
  | plain | single | space | pipe | separator => simp [reads, hk]

lemma substitute_of_ne {l : Lexeme} (h : l.kind ≠ .double) (vars : Bindings) :
    l.substitute vars = l.resolve vars := by
  obtain ⟨kind, text⟩ := l
  cases kind with
  | double => exact absurd rfl h
  | plain | ref | single | space | pipe | separator => rfl

lemma substitute_congr {l : Lexeme}
    (h : ∀ n ∈ l.reads, (vars n).getD [] = (vars' n).getD []) :
    l.substitute vars = l.substitute vars' := by
  by_cases hk : l.kind = .double
  · have hfill : fill vars l.value = fill vars' l.value :=
      fill_congr fun r hr href => h r.name (mem_reads_iff.mpr (Or.inr ⟨hk, r, hr, href, rfl⟩))
    simp only [substitute, hk, hfill]
  · have hresolve : l.resolve vars = l.resolve vars' :=
      resolve_congr fun href => h l.name (mem_reads_iff.mpr (Or.inl ⟨href, rfl⟩))
    rw [substitute_of_ne hk, substitute_of_ne hk, hresolve]

-- An open quote and all that stands behind it is plain text.
lemma reads_eq_nil {l : Lexeme} (h : l.kind = .single ∨ l.kind = .plain) : l.reads = [] := by
  rcases h with hk | hk <;> simp [reads, hk]

end Lexeme

namespace Text

def reads (line : Text) : List Text :=
  line.lexemes.flatMap Lexeme.reads

lemma expand_congr {vars vars' : Bindings} {line : Text}
    (h : ∀ n ∈ line.reads, (vars n).getD [] = (vars' n).getD []) :
    line.expand vars = line.expand vars' := by
  have hsubstitute : line.lexemes.map (Lexeme.substitute vars) =
      line.lexemes.map (Lexeme.substitute vars') := by
    apply List.map_congr_left
    intro l hl
    apply Lexeme.substitute_congr
    intro n hn
    exact h n (List.mem_flatMap.mpr ⟨l, hl, hn⟩)
  rw [expand, expand, hsubstitute]

end Text

namespace Shell

def assignments (w : World) (c : Context) (line : Text) : List (Text × Text) :=
  if (parse c line).fault = none then Run.assignments w (commands c line) { context := c } else []

section

variable {w : World} {c d : Context} {line : Text}

lemma assignments_of_parses (h : (parse c line).fault = none) :
    assignments w c line = Run.assignments w (commands c line) { context := c } :=
  if_pos h

lemma assignments_of_not_parses {f : ParseFault} (h : (parse c line).fault = some f) :
    assignments w c line = [] :=
  if_neg (by simp [h])

lemma vars_execute (w : World) (c : Context) (line : Text) :
    (execute w c line).context.vars = c.vars.assign (assignments w c line) := by
  cases hp : (parse c line).fault with
  | some f =>
    rw [execute_of_not_parses hp, assignments_of_not_parses hp]
    rfl
  | none =>
    rw [(execute_of_parses hp).1, assignments_of_parses hp]
    exact Run.vars_all w (commands c line) { context := c }

lemma perform_withVars (hcwd : c.cwd = d.cwd) (ks : List Command) :
    perform w ks d = { perform w ks c with
      state := (perform w ks c).state.withVars
        (d.vars.assign (Run.assignments w ks { context := c })) } ∧
    Run.assignments w ks { context := d } = Run.assignments w ks { context := c } := by
  have hstart : ({ context := d } : State) = State.withVars d.vars { context := c } := by
    obtain ⟨cwd, vars⟩ := d
    subst hcwd
    rfl
  rw [perform, hstart]
  exact ⟨Run.all_withVars w ks d.vars { context := c },
    Run.assignments_withVars w ks d.vars { context := c }⟩

lemma execute_of_expand_eq (hcwd : c.cwd = d.cwd) (h : line.expand c.get? = line.expand d.get?) :
    (execute w c line).outcome = (execute w d line).outcome ∧
    (execute w c line).calls = (execute w d line).calls ∧
    (execute w c line).context.cwd = (execute w d line).context.cwd ∧
    assignments w c line = assignments w d line := by
  have hparse : parse c line = parse d line := by rw [parse, parse, Text.tokens, Text.tokens, h]
  cases hp : (parse c line).fault with
  | some f =>
    have hq : (parse d line).fault = some f := hparse ▸ hp
    rw [execute_of_not_parses hp, execute_of_not_parses hq, assignments_of_not_parses hp,
      assignments_of_not_parses hq]
    exact ⟨rfl, rfl, hcwd, rfl⟩
  | none =>
    have hq : (parse d line).fault = none := hparse ▸ hp
    have hcommands : commands d line = commands c line := by rw [commands, commands, hparse]
    obtain ⟨hrun, hassign⟩ := perform_withVars (w := w) hcwd (commands c line)
    obtain ⟨hcontext, hcalls, houtcome⟩ := execute_of_parses (w := w) hp
    obtain ⟨hcontext', hcalls', houtcome'⟩ := execute_of_parses (w := w) hq
    rw [hcommands, hrun] at hcontext' hcalls' houtcome'
    refine ⟨houtcome.trans houtcome'.symm, hcalls.trans hcalls'.symm, ?_, ?_⟩
    · rw [hcontext, hcontext']
      rfl
    · rw [assignments_of_parses hp, assignments_of_parses hq, hcommands, hassign]

end

theorem execute_depends_on_read (w : World) (c d : Context) (line : Text) (hcwd : c.cwd = d.cwd)
    (hreads : ∀ n ∈ line.reads, (c.get? n).getD [] = (d.get? n).getD []) :
    let r := execute w c line
    let t := execute w d line
    r.outcome = t.outcome ∧ r.calls = t.calls ∧ r.context.cwd = t.context.cwd ∧
    assignments w c line = assignments w d line ∧
    r.context.vars = c.vars.assign (assignments w c line) ∧
    t.context.vars = d.vars.assign (assignments w d line) ∧
    (∀ n, r.context.get? n ≠ t.context.get? n →
      c.get? n ≠ d.get? n ∧ n ∉ (assignments w c line).map Prod.fst) ∧
    (∀ l : Lexeme, l.kind = .single ∨ l.kind = .plain → l.reads = []) ∧
    ∀ n v, n ∉ line.reads →
      (execute w (c.set n v) line).outcome = r.outcome ∧
      (execute w (c.set n v) line).calls = r.calls ∧
      (execute w (c.set n v) line).context.cwd = r.context.cwd ∧
      assignments w (c.set n v) line = assignments w c line := by
  intro r t
  obtain ⟨houtcome, hcalls, hcontext, hassign⟩ :=
    execute_of_expand_eq (w := w) hcwd (Text.expand_congr hreads)
  have hr := vars_execute w c line
  have ht := vars_execute w d line
  refine ⟨houtcome, hcalls, hcontext, hassign, hr, ht, fun n hn => ?_,
    fun _ => Lexeme.reads_eq_nil, fun n v hunread => ?_⟩
  · have hsame : ¬ (c.vars.get? n = d.vars.get? n ∨ n ∈ (assignments w c line).map Prod.fst) := by
      intro h
      apply hn
      rw [Context.get?, Context.get?, hr, ht, ← hassign]
      exact Variables.get?_assign_eq h
    exact not_or.mp hsame
  · have hagree : ∀ m ∈ line.reads, ((c.set n v).get? m).getD [] = (c.get? m).getD [] := by
      intro m hm
      have hne : m ≠ n := ne_of_mem_of_not_mem hm hunread
      exact congrArg (Option.getD · []) (Variables.get?_set_of_ne hne c.vars v)
    exact execute_of_expand_eq rfl (Text.expand_congr hagree)

-- Of the two contexts one has `a` unset and the other has it empty; they differ in `s`, `t`, `x` and
-- `y`, of which the line names two where nothing is read and assigns one.
theorem execute_depends_on_read_quoted :
    let w : World := { processCwd := ['/'], home := none }
    let c : Context := ⟨['/'], ⟨[(['b'], ['B']), (['s'], ['1']), (['x'], ['0'])]⟩⟩
    let d : Context :=
      ⟨['/'], ⟨[(['y'], ['5']), (['t'], ['3']), (['a'], []), (['b'], ['B']), (['s'], ['2'])]⟩⟩
    let line : Text := "x=1$a; echo \"$b\" '$s' 'v $t".toList
    c.cwd = d.cwd ∧ (∀ n ∈ line.reads, (c.get? n).getD [] = (d.get? n).getD []) ∧
    (execute w c line).outcome = (execute w d line).outcome ∧
    (execute w d line).outcome = .ok "B $s 'v $t\n".toList ∧
    assignments w c line = [(['x'], ['1'])] ∧
    (execute w c line).context.get? ['x'] = (execute w d line).context.get? ['x'] ∧
    (execute w c line).context.get? ['s'] ≠ (execute w d line).context.get? ['s'] ∧
    (execute w (c.set ['t'] ['4']) line).outcome = (execute w c line).outcome := by
  intro w c d line
  have hreads : ∀ n ∈ line.reads, (c.get? n).getD [] = (d.get? n).getD [] := by decide +kernel
  have hassign : assignments w c line = [(['x'], ['1'])] := by decide +kernel
  obtain ⟨houtcome, -, -, -, -, -, hdiffer, -, hunread⟩ :=
    execute_depends_on_read w c d line rfl hreads
  have hx : (execute w c line).context.get? ['x'] = (execute w d line).context.get? ['x'] := by
    by_contra hne
    have hnot := (hdiffer ['x'] hne).2
    rw [hassign] at hnot
    exact hnot List.mem_cons_self
  have ht : ['t'] ∉ line.reads := by decide +kernel
  exact ⟨rfl, hreads, houtcome, by decide +kernel, hassign, hx, by decide +kernel,
    (hunread ['t'] ['4'] ht).1⟩

end Shell

end LineShell
