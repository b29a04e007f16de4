import LineShell.Proofs.Execution.Run
import LineShell.Proofs.Grep.Options
import LineShell.Proofs.Outcome

/-! The commands that break down, instead of failing with a message: those that meet the null
character where the system cannot take it, and searches with a count or a pattern beyond a limit. -/

namespace LineShell

namespace Path

end Path

namespace World

def NullUser (path : Text) : Prop :=
  ∃ tail, path = '~' :: tail ∧ '\x00' ∈ tail.takeWhile (· ≠ '/')

def Unfit (w : World) (cwd path : Text) : Prop :=
  '\x00' ∈ path ∨ ∃ full, w.resolve cwd path = .ok full ∧ '\x00' ∈ full

def Readable (w : World) (cwd path : Text) : Prop :=
  ∃ full bytes, w.resolve cwd path = .ok full ∧ w.tree.read full = .ok bytes

/-- Of paths that are read in order, one is unfit and all before it can be read. -/
def Blocked (w : World) (cwd : Text) (paths : List Text) : Prop :=
  ∃ pre p post, paths = pre ++ p :: post ∧ (∀ q ∈ pre, w.Readable cwd q) ∧ w.Unfit cwd p

lemma NullUser.mem {path : Text} (h : NullUser path) : '\x00' ∈ path := by
  obtain ⟨tail, rfl, hnull⟩ := h
  exact List.mem_cons_of_mem _ ((List.takeWhile_sublist _).mem hnull)

end World

namespace Tree

variable (tree : Tree) {path : Text}

end Tree

namespace Site

variable {s : Site} {args : List Text} {pipe : Option Text} {b : Breakdown}

lemma readFile_of_error {command path : Text} (h : s.world.resolve s.cwd path = .error b) :
    s.readFile command path = .error (.breakdown b) := by
  simp only [readFile, h]

lemma readFile_of_ok {command path full : Text} (h : s.world.resolve s.cwd path = .ok full) :
    s.readFile command path = match s.world.tree.read full with
      | .error .nullByte => .error (.breakdown .nullByte)
      | .error (.system f) => .error (.failure (.unreadable command path f))
      | .ok bytes => .ok (World.textOf bytes) := by
  unfold readFile
  split
  · rename_i b hb
    cases h.symm.trans hb
  · rename_i full' hfull
    cases h.symm.trans hfull
    rfl

lemma readFile_eq_ok_iff {command path : Text} :
    (∃ text, s.readFile command path = .ok text) ↔ s.world.Readable s.cwd path := by
  unfold World.Readable
  cases hx : s.world.resolve s.cwd path with
  | error b => simp [readFile_of_error hx]
  | ok full =>
    rw [readFile_of_ok hx]
    cases hread : s.world.tree.read full with
    | error e => cases e <;> simp [hread]
    | ok bytes => simp [hread]

lemma grepFile_eq_map (hit : Text → Bool) (after : Nat) (several : Bool) (path : Text) :
    s.grepFile hit after several path = (s.readFile "grep".toList path).map fun text =>
      if several then (Grep.select hit after text.splitLines).map (labelled path)
      else Grep.select hit after text.splitLines := by
  unfold grepFile
  cases s.readFile "grep".toList path <;> rfl

/-- A search that breaks down: on its arguments, on its pattern, or on a path. For a pattern the
condition is on its compilation; what its text must hold for that, `Pattern.Overruns`, is necessary
and not sufficient. -/
inductive SearchBreaks (s : Site) (args : List Text) : Breakdown → Prop
  | count {value : Text} : Grep.Overflows args value →
    SearchBreaks s args (.digitLimit value.length)
  | pattern {r : Grep.Request} {b : Breakdown} : Grep.parse args = .ok r →
    Grep.compile s.world.charNames r.options r.pattern = .error (.breakdown b) → SearchBreaks s args b
  | path {r : Grep.Request} {p : Pattern.Search} : Grep.parse args = .ok r →
    Grep.compile s.world.charNames r.options r.pattern = .ok p → s.world.Blocked s.cwd r.paths →
    SearchBreaks s args .nullByte

lemma grep_of_request {r : Grep.Request} {p : Pattern.Search} (hr : Grep.parse args = .ok r)
    (hp : Grep.compile s.world.charNames r.options r.pattern = .ok p) :
    s.grep args pipe =
      if r.paths.isEmpty then
        .ok (asLines (Grep.select p.finds r.options.after (pipe.getD []).splitLines))
      else (r.paths.mapM (s.grepFile p.finds r.options.after (1 < r.paths.length))).map
        fun found => asLines found.flatten := by
  have hr' : searchRequest args = .ok r := mapError_eq_ok_iff.mpr hr
  have hp' : s.compilePattern r.options r.pattern = .ok p := mapError_eq_ok_iff.mpr hp
  rw [grep, hr']
  change (s.compilePattern r.options r.pattern).bind _ = _
  rw [hp']
  cases r.paths <;> rfl

def target (w : World) : List Text → Text
  | [] => match w.home with
    | some home => World.underHome home []
    | none => ['~']
  | t :: _ => t

lemma expandHome_tilde (w : World) : w.expandHome ['~'] = .ok (target w []) := by
  cases h : w.home with
  | none => simp [World.expandHome, target, h]
  | some home => simp [World.expandHome, target, h]

lemma cd_eq_bind :
    s.cd args =
      (((s.world.resolve s.cwd (target s.world args)).mapError Fault.breakdown).map
        Path.normalize).bind fun path =>
          if !s.world.tree.pathExists path then
            .error (.failure (.noSuchDirectory (target s.world args)))
          else if !s.world.tree.isDirectory path then
            .error (.failure (.notADirectory (target s.world args)))
          else .ok path := by
  unfold cd
  cases args with
  | nil =>
    rw [expandHome_tilde]
    rfl
  | cons t ts => rfl

end Site

def Builtin.Breaks (s : Site) (args : List Text) (b : Breakdown) : Builtin → Prop
  | .cat | .wc => b = .nullByte ∧ s.world.Blocked s.cwd args
  | .cd => b = .nullByte ∧ World.NullUser (Site.target s.world args)
  | .grep => s.SearchBreaks args b
  | .echo | .exit | .pwd => False

namespace Command

def Breaks (w : World) (cwd : Text) (b : Breakdown) : Command → Prop
  | .simple name args =>
    match Builtin.ofName? name with
    | some k => k.Breaks ⟨w, cwd⟩ args b
    | none => b = .nullByte ∧ ((∃ a ∈ name :: args, '\x00' ∈ a) ∨ '\x00' ∈ cwd)
  | .assign .. | .flush => False

end Command

end LineShell
