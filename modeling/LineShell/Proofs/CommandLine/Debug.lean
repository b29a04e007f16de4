import LineShell.CommandLine.Basic
import LineShell.Proofs.Shell.Line

/-! The debug log changes nothing but the standard error, and there it only adds records to what is
written without it: asked for in front of any arguments, it leaves the session as it is. -/

namespace LineShell.CommandLine

def debugOption : Text := "--debug".toList

namespace Settings

def withDebug (s : Settings) : Settings :=
  { s with debug := true }

lemma give_withDebug (s : Settings) (gs : List (Opt × Option Text)) :
    s.withDebug.give gs = (s.give gs).map withDebug := by
  induction gs generalizing s with
  | nil => rfl
  | cons g gs ih =>
    obtain ⟨o, v⟩ := g
    cases o with
    | help => rfl
    | command => exact ih { s with command := .ofValue v }
    | cwd => exact ih { s with cwd := .ofValue v }
    | debug => exact ih { s with debug := true }

end Settings

namespace Verdict

def withDebug : Verdict → Verdict
  | .settings s => .settings s.withDebug
  | .help => .help
  | .misuse m => .misuse m

end Verdict

-- One case for each way in which an argument is taken; the settings are only passed on and added to.
lemma collect_withDebug (s : Settings) (extra : List Text) (cs : List (Text × Class)) :
    s.withDebug.collect extra cs = (s.collect extra cs).withDebug := by
  fun_induction Settings.collect s extra cs with
  | case1 s extra hextra => simp [Settings.collect, Verdict.withDebug, hextra]
  | case2 s extra hextra => simp [Settings.collect, Verdict.withDebug, hextra]
  | case3 s extra arg w rest m hw => simp [Settings.collect, Verdict.withDebug, hw]
  | case4 s extra arg w rest c hw hwait hgive =>
    simp [Settings.collect, Verdict.withDebug, hw, hwait, Settings.give_withDebug, hgive]
  | case5 s extra arg w rest c hw hwait t hgive ih =>
    simp [Settings.collect, hw, hwait, Settings.give_withDebug, hgive, ih]
  | case6 s extra arg w c hw o hwait value more hgive =>
    simp [Settings.collect, Verdict.withDebug, hw, hwait, Settings.give_withDebug, hgive]
  | case7 s extra arg w c hw o hwait value more t hgive ih =>
    simp [Settings.collect, hw, hwait, Settings.give_withDebug, hgive, ih]
  | case8 s extra arg w rest c hw o hwait hrest =>
    simp [Settings.collect, Verdict.withDebug, hw, hwait]
  | case9 s extra arg c rest hc ih => simp [Settings.collect, ih]

lemma classifyAll_debugOption (args : List Text) :
    classifyAll (debugOption :: args) =
      (classifyAll args).map ((debugOption, .option ⟨.debug, false, none⟩) :: ·) := by
  have hclass : classify debugOption = .ok (.option ⟨.debug, false, none⟩) := rfl
  have hne : debugOption ≠ ['-', '-'] := by decide
  rw [classifyAll, if_neg hne, hclass]
  cases classifyAll args <;> rfl

lemma verdict_debugOption (args : List Text) :
    verdict (debugOption :: args) = (verdict args).withDebug := by
  rw [verdict, verdict, classifyAll_debugOption]
  cases classifyAll args with
  | error m => rfl
  | ok cs => exact collect_withDebug {} [] cs

lemma start_withDebug (w : World) (s : Settings) (items : List TerminalItem) :
    start w s.withDebug items = start w s items :=
  rfl

/-- Who writes to the standard error: the shell, its log, or a program or the compiler of patterns. -/
inductive Author where
  | shell
  | log
  | other
  deriving DecidableEq

def authorOf : Event → Author
  | .out _ | .complaint _ => .shell
  | .remark (.note _) => .log
  | .remark (.aside _) | .remark (.warning _) => .other

structure Write where
  author : Author
  text : Text
  deriving DecidableEq

namespace Report

def writeOf (debug : Bool) (e : Event) : Write :=
  ⟨authorOf e, stderrOf debug e⟩

def errorWrites : Report → List Write
  | .session debug s =>
    ((Event.unrepeated [] s.events).map (writeOf debug)).filter fun x => x.text ≠ []
  | .usage _ err _ => [⟨.shell, err⟩]

lemma flatMap_filter_text (xs : List Write) :
    (xs.filter fun x => x.text ≠ []).flatMap Write.text = xs.flatMap Write.text := by
  induction xs with
  | nil => rfl
  | cons x xs ih =>
    by_cases h : x.text = []
    · simpa [h] using ih
    · simpa [h] using ih

lemma flatMap_errorWrites (r : Report) : r.errorWrites.flatMap Write.text = r.stderr := by
  cases r with
  | session debug s =>
    rw [errorWrites, flatMap_filter_text, List.flatMap_map]
    rfl
  | usage out err status => exact List.append_nil err

section

variable (debug : Bool) (es : List Event)

lemma filter_author_ne_log :
    ((es.map (writeOf debug)).filter fun x => x.text ≠ []).filter (·.author ≠ .log) =
      ((es.map (writeOf true)).filter fun x => x.text ≠ []).filter (·.author ≠ .log) := by
  induction es with
  | nil => rfl
  | cons e es ih =>
    cases e with
    | out t => simpa [writeOf, stderrOf] using ih
    | complaint t => simpa [writeOf, stderrOf, authorOf] using ih
    | remark r =>
      cases r with
      | note n =>
        cases debug with
        | true => rfl
        | false => simpa [writeOf, stderrOf, authorOf] using ih
      | aside t | warning t => by_cases ht : t = [] <;> simpa [writeOf, stderrOf, authorOf, ht] using ih

lemma author_ne_log_of_quiet {x : Write}
    (h : x ∈ (es.map (writeOf false)).filter fun x => x.text ≠ []) : x.author ≠ .log := by
  obtain ⟨hmem, hne⟩ := List.mem_filter.mp h
  obtain ⟨e, -, rfl⟩ := List.mem_map.mp hmem
  cases e with
  | out t | complaint t => simp [writeOf, authorOf]
  | remark r => cases r <;> simp_all [writeOf, authorOf, stderrOf]

end

structure Signed (x : Write) : Prop where
  shell : x.author = .shell → "minish: ".toList <+: x.text
  log : x.author = .log → "DEBUG ".toList <+: x.text

lemma signed_of_mem {debug : Bool} {s : Session} {x : Write}
    (h : x ∈ (session debug s).errorWrites) : Signed x := by
  obtain ⟨hmem, hne⟩ := List.mem_filter.mp h
  obtain ⟨e, -, rfl⟩ := List.mem_map.mp hmem
  cases e with
  | out t => simp [writeOf, stderrOf] at hne
  | complaint t => exact ⟨fun _ => ⟨t ++ ['\n'], rfl⟩, fun h => by cases h⟩
  | remark r =>
    cases r with
    | note n =>
      cases debug with
      | false => simp [writeOf, stderrOf] at hne
      | true => exact ⟨fun h => (by cases h), fun _ => ⟨_, rfl⟩⟩
    | aside t | warning t => exact ⟨fun h => (by cases h), fun h => (by cases h)⟩

end Report

section

variable {args : List Text} {s : Settings}

lemma run_of_settings (h : verdict args = .settings s) (w : World) (items : List TerminalItem) :
    run w args items = .session s.debug (start w s items) := by
  simp only [run, h]

lemma run_debugOption_of_settings (h : verdict args = .settings s) (w : World)
    (items : List TerminalItem) :
    run w (debugOption :: args) items = .session true (start w s items) := by
  have hverdict : verdict (debugOption :: args) = .settings s.withDebug := by
    rw [verdict_debugOption, h]
    rfl
  rw [run_of_settings hverdict, start_withDebug]
  rfl

lemma run_debugOption_of_refused (h : ∀ s, verdict args ≠ .settings s) (w : World)
    (items : List TerminalItem) : run w (debugOption :: args) items = run w args items := by
  have hverdict : verdict (debugOption :: args) = verdict args := by
    rw [verdict_debugOption]
    cases hv : verdict args with
    | settings s => exact absurd hv (h s)
    | help | misuse m => rfl
  simp only [run, hverdict]

end

section

variable {w : World} {calls more : List Call}

/-- What programs write comes from those that were called, and warnings from the patterns. -/
def ComesFrom (w : World) (calls : List Call) : Remark → Prop
  | .note _ => True
  | .aside t => ∃ k ∈ calls, w.errorsOf k = t
  | .warning t => ∃ pattern, t ∈ w.warnings pattern

lemma ComesFrom.mono {r : Remark} (h : ComesFrom w calls r) (hcalls : calls ⊆ more) :
    ComesFrom w more r := by
  cases r with
  | note n => trivial
  | aside t => exact h.imp fun k hk => ⟨hcalls hk.1, hk.2⟩
  | warning t => exact h

lemma comesFrom_invoke (name : Text) (args : List Text) (s : State) :
    ∀ r ∈ (Command.invoke w name args s).remarks,
      ComesFrom w (Command.invoke w name args s).calls r := by
  cases hb : Builtin.ofName? name with
  | some b =>
    rw [Command.invoke_builtin hb]
    intro r hr
    obtain ⟨t, ht, rfl⟩ := List.mem_map.mp hr
    cases b with
    | grep =>
      cases hparse : Grep.parse args with
      | error e => simp [Builtin.warnings, hparse] at ht
      | ok q => exact ⟨q.options.patternText q.pattern, by simpa [Builtin.warnings, hparse] using ht⟩
    | _ => cases ht
  | none =>
    rcases hx : Site.external ⟨w, s.context.cwd⟩ name args s.pipe with ⟨calls, result⟩
    cases result with
    | error f =>
      rw [Command.invoke_program_error hb hx]
      intro r hr
      cases hr
    | ok p =>
      obtain ⟨text, status⟩ := p
      rw [Command.invoke_program_ok hb hx]
      intro r hr
      rcases List.mem_append.mp hr with hr | hr
      · obtain ⟨k, hk, rfl⟩ := List.mem_map.mp hr
        exact ⟨k, hk, rfl⟩
      · split at hr
        · cases hr
        · rw [List.mem_singleton.mp hr]
          trivial

lemma comesFrom_step (c : Command) (s : State) :
    ∀ r ∈ (c.step w s).remarks, ComesFrom w (c.step w s).calls r := by
  refine List.forall_mem_cons.mpr ⟨trivial, ?_⟩
  cases c with
  | simple name args => exact comesFrom_invoke name args s
  | assign name value => exact List.forall_mem_nil _
  | flush => exact List.forall_mem_nil _

lemma comesFrom_all (cs : List Command) (s : State) :
    ∀ r ∈ (Run.all (Command.step w) cs s).remarks,
      ComesFrom w (Run.all (Command.step w) cs s).calls r := by
  induction cs generalizing s with
  | nil => exact List.forall_mem_nil _
  | cons c cs ih =>
    cases hc : (c.step w s).outcome with
    | error f =>
      rw [Run.all_cons_error hc]
      exact comesFrom_step c s
    | ok t =>
      rw [Run.all_cons_ok hc]
      refine List.forall_mem_append.mpr ⟨fun r hr => ?_, fun r hr => ?_⟩
      · exact (comesFrom_step c s r hr).mono (List.subset_append_left _ _)
      · exact (ih t r hr).mono (List.subset_append_right _ _)

lemma comesFrom_execute (c : Context) (line : Text) :
    ∀ r ∈ (Shell.execute w c line).remarks, ComesFrom w (Shell.execute w c line).calls r := by
  have hnotes (ns : List Note) (calls : List Call) :
      ∀ r ∈ ns.map Remark.note, ComesFrom w calls r := by
    intro r hr
    obtain ⟨n, -, rfl⟩ := List.mem_map.mp hr
    trivial
  unfold Shell.execute
  dsimp only
  split
  · exact hnotes _ _
  · refine List.forall_mem_append.mpr ⟨hnotes _ _, List.forall_mem_cons.mpr ⟨trivial, ?_⟩⟩
    exact comesFrom_all _ _

def Accounted (w : World) (calls : List Call) (events : List Event) : Prop :=
  ∀ r, .remark r ∈ events → ComesFrom w calls r

lemma Accounted.append {events events' : List Event} (h : Accounted w calls events)
    (h' : Accounted w more events') : Accounted w (calls ++ more) (events ++ events') := by
  intro r hr
  rcases List.mem_append.mp hr with hr | hr
  · exact (h r hr).mono (List.subset_append_left _ _)
  · exact (h' r hr).mono (List.subset_append_right _ _)

lemma events_round (w : World) (c : Context) (line : Text) :
    ∃ last, (Shell.round w c (.command line)).events =
        (Shell.execute w c line).remarks.map .remark ++ last ∧
      (Shell.round w c (.command line)).calls = (Shell.execute w c line).calls ∧
      ∀ r, .remark r ∉ last := by
  unfold Shell.round
  dsimp only
  split
  · exact ⟨_, rfl, rfl, by simp⟩
  · exact ⟨[], (List.append_nil _).symm, rfl, by simp⟩
  · exact ⟨[], (List.append_nil _).symm, rfl, by simp⟩
  · exact ⟨_, rfl, rfl, by simp⟩

lemma accounted_round (c : Context) (e : EntryEnd) :
    Accounted w (Shell.round w c e).calls (Shell.round w c e).events := by
  cases e with
  | ended | interrupted =>
    intro r hr
    simp [Shell.round, Shell.newline] at hr
  | command line =>
    obtain ⟨last, hevents, hcalls, hlast⟩ := events_round w c line
    rw [hevents, hcalls]
    intro r hr
    rcases List.mem_append.mp hr with hr | hr
    · obtain ⟨q, hq, heq⟩ := List.mem_map.mp hr
      cases heq
      exact comesFrom_execute c line r hq
    · exact absurd hr (hlast r)

lemma runLine_eq_round (w : World) (c : Context) (line : Text) (unread : Nat) :
    (Shell.runLine w c line unread).events = (Shell.round w c (.command line)).events ∧
      (Shell.runLine w c line unread).calls = (Shell.round w c (.command line)).calls := by
  unfold Shell.runLine Shell.round
  dsimp only
  split <;> exact ⟨rfl, rfl⟩

lemma accounted_run (c : Context) (items : List TerminalItem) :
    Accounted w (Shell.run w c items).calls (Shell.run w c items).events := by
  have hround (entry : Entry) (c : Context) :
      Accounted w (Shell.round w c entry.ending).calls
        (entry.prompts.map .out ++ (Shell.round w c entry.ending).events) := by
    intro r hr
    exact accounted_round c entry.ending r (by simpa using hr)
  fun_induction Shell.run w c items with
  | case1 c items entry q events ending hnext => exact hround entry c
  | case2 c items entry q events d hnext ih => exact (hround entry c).append ih

lemma accounted_start (s : Settings) (items : List TerminalItem) :
    Accounted w (start w s items).calls (start w s items).events := by
  unfold start
  split
  · intro r hr
    cases hr
  · exact accounted_run _ _
  · rename_i c line _ _
    obtain ⟨hevents, hcalls⟩ := runLine_eq_round w c line items.length
    rw [hevents, hcalls]
    exact accounted_round _ _

end

lemma mem_of_mem_unrepeated {given : List Text} {es : List Event} {e : Event}
    (h : e ∈ Event.unrepeated given es) : e ∈ es := by
  induction es generalizing given with
  | nil => exact h
  | cons d es ih =>
    unfold Event.unrepeated at h
    dsimp only at h
    split at h
    · exact List.mem_cons_of_mem _ (ih h)
    · rcases List.mem_cons.mp h with rfl | h
      · exact List.mem_cons_self
      · exact List.mem_cons_of_mem _ (ih h)

lemma author_ne_other {w : World} {debug : Bool} {s : Session}
    (hs : Accounted w s.calls s.events) (hcalls : ∀ k ∈ s.calls, w.errorsOf k = [])
    (hwarnings : ∀ pattern, w.warnings pattern = []) {x : Write}
    (hx : x ∈ (Report.session debug s).errorWrites) : x.author ≠ .other := by
  obtain ⟨hmem, hne⟩ := List.mem_filter.mp hx
  obtain ⟨e, he, rfl⟩ := List.mem_map.mp hmem
  cases e with
  | out t | complaint t => simp [Report.writeOf, authorOf]
  | remark r =>
    have hfrom := hs r (mem_of_mem_unrepeated he)
    cases r with
    | note n => simp [Report.writeOf, authorOf]
    | aside t =>
      obtain ⟨k, hk, rfl⟩ := hfrom
      simp [Report.writeOf, Report.stderrOf, hcalls k hk] at hne
    | warning t =>
      obtain ⟨pattern, ht⟩ := hfrom
      simp [hwarnings] at ht

open Report in
theorem run_debugOption (w : World) (args : List Text) (items : List TerminalItem) :
    let quiet := run w args items
    let loud := run w (debugOption :: args) items
    let complaints := quiet.errorWrites.filter (·.author = .shell)
    let rest := loud.errorWrites.filter (·.author ≠ .log)
    (∀ s, verdict args = .settings s →
      (∃ q l, quiet = .session s.debug q ∧ loud = .session true l ∧ q.ending = l.ending ∧
        q.unread = l.unread) ∧
      quiet.stdout = loud.stdout ∧ quiet.calls = loud.calls ∧
      quiet.errorWrites.filter (·.author ≠ .log) = rest ∧
      (s.debug = false → quiet.errorWrites = rest) ∧
      complaints = rest.filter (·.author = .shell) ∧
      (complaints = rest ↔ ∀ x ∈ rest, x.author ≠ .other) ∧
      ((∀ k ∈ loud.calls, w.errorsOf k = []) → (∀ pattern, w.warnings pattern = []) →
        complaints = rest) ∧
      (∀ x ∈ quiet.errorWrites ++ loud.errorWrites, Signed x) ∧
      quiet.errorWrites.flatMap Write.text = quiet.stderr ∧
      loud.errorWrites.flatMap Write.text = loud.stderr) ∧
    ((∀ s, verdict args ≠ .settings s) → loud = quiet) := by
  intro quiet loud complaints rest
  refine ⟨fun s hs => ?_, fun hnot => run_debugOption_of_refused hnot w items⟩
  have hquiet : quiet = .session s.debug (start w s items) := run_of_settings hs w items
  have hloud : loud = .session true (start w s items) := run_debugOption_of_settings hs w items
  have hrest : quiet.errorWrites.filter (·.author ≠ .log) = rest := by
    dsimp only [rest]
    rw [hquiet, hloud]
    exact filter_author_ne_log s.debug _
  have hcomplaints : complaints = rest.filter (·.author = .shell) := by
    rw [← hrest, List.filter_filter]
    refine List.filter_congr fun x _ => ?_
    cases x.author <;> rfl
  have hiff : complaints = rest ↔ ∀ x ∈ rest, x.author ≠ .other := by
    rw [hcomplaints, List.filter_eq_self]
    refine forall₂_congr fun x hx => ?_
    have hlog : x.author ≠ .log := by simpa using (List.mem_filter.mp hx).2
    cases hx : x.author <;> simp_all
  refine ⟨⟨_, _, hquiet, hloud, rfl, rfl⟩, ?_, ?_, hrest, fun hdebug => ?_, hcomplaints, hiff,
    fun hcalls hwarnings => hiff.mpr fun x hx => ?_, fun x hx => ?_, flatMap_errorWrites quiet,
    flatMap_errorWrites loud⟩
  · rw [hquiet, hloud]
    rfl
  · rw [hquiet, hloud]
    rfl
  · rw [← hrest, eq_comm, List.filter_eq_self, hquiet, hdebug]
    intro x hx
    simpa using author_ne_log_of_quiet _ hx
  · rw [hloud] at hcalls
    have hmem := (List.mem_filter.mp hx).1
    rw [hloud] at hmem
    exact author_ne_other (accounted_start s items) hcalls hwarnings hmem
  · rw [hquiet, hloud] at hx
    exact (List.mem_append.mp hx).elim signed_of_mem signed_of_mem

-- The second item fails and is complained about, an interrupt drops the third, and the last is never
-- read; twelve records of the log stand around the one complaint.
open Report in
theorem run_debugOption_session :
    let w : World := { processCwd := ['/'], home := none }
    let items := [some "x=1".toList, some "cat $x".toList, some "echo '".toList, none,
      some "exit 3".toList, some "echo".toList]
    let complaint : Write := ⟨.shell, "minish: cat: 1: No such file or directory\n".toList⟩
    verdict [] = .settings {} ∧ (run w [] items).errorWrites = [complaint] ∧
    (run w [debugOption] items).errorWrites.filter (·.author ≠ .log) = [complaint] ∧
    (run w [debugOption] items).errorWrites.length = 13 ∧
    ∃ q l, run w [] items = .session false q ∧ run w [debugOption] items = .session true l ∧
      q.ending = l.ending ∧ q.unread = l.unread := by
  intro w items complaint
  have hverdict : verdict [] = .settings {} := rfl
  obtain ⟨hsessions, -, -, -, hwrites, -⟩ := (run_debugOption w [] items).1 {} hverdict
  have hquiet : (run w [] items).errorWrites = [complaint] := by decide +kernel
  exact ⟨hverdict, hquiet, (hwrites rfl).symm.trans hquiet, by decide +kernel, hsessions⟩

-- A pattern that is warned about, and a program that writes to the standard error: the shell itself
-- has nothing to say.
open Report in
theorem run_debugOption_bystanders :
    let warning := "Possible nested set at position 1\n".toList
    let w : World :=
      { processCwd := ['/'], home := none
        programs := [(['p'], .runs [] (Text.encode "p: hm\n".toList) false 0)]
        warnings := fun t => if t = "[[:alpha:]]".toList then [warning] else [] }
    let args := ["-c".toList, "p | grep '[[:alpha:]]'; echo a | grep '[[:alpha:]]'".toList]
    (∃ s, verdict args = .settings s) ∧
    (run w args []).errorWrites.filter (·.author = .shell) = [] ∧
    (run w (debugOption :: args) []).errorWrites.filter (·.author ≠ .log) =
      [⟨.other, "p: hm\n".toList⟩, ⟨.other, warning⟩] :=
  ⟨⟨_, rfl⟩, by decide +kernel, by decide +kernel⟩

end LineShell.CommandLine
