import LineShell.Proofs.Execution.Breakdown
import LineShell.Proofs.Execution.Effect
import LineShell.Proofs.Shell.Line
import LineShell.Proofs.World.Walk

namespace LineShell

namespace World

lemma isAbsolute_of_resolve {w : World} {cwd path full : Text} (h : Path.isAbsolute cwd = true)
    (hfull : w.resolve cwd path = .ok full) : Path.isAbsolute full = true := by
  obtain ⟨p, -, rfl⟩ := map_eq_ok_iff.mp hfull
  exact Path.isAbsolute_join h p

end World

namespace Site

variable {s : Site} {args : List Text} {d : Text}

lemma cd_eq_ok_iff :
    s.cd args = .ok d ↔
      ∃ full, s.world.resolve s.cwd (target s.world args) = .ok full ∧ Path.normalize full = d ∧
        s.world.tree.isDirectory d = true := by
  rw [cd_eq_bind, bind_eq_ok_iff]
  simp only [map_eq_ok_iff, mapError_eq_ok_iff]
  constructor
  · rintro ⟨path, ⟨full, hfull, rfl⟩, hpath⟩
    split_ifs at hpath with hexists hdir
    obtain rfl := Except.ok.inj hpath
    exact ⟨full, hfull, rfl, by simpa using hdir⟩
  · rintro ⟨full, hfull, rfl, hdir⟩
    refine ⟨_, ⟨full, hfull, rfl⟩, ?_⟩
    simp [Tree.pathExists_of_isDirectory hdir, hdir]

theorem cd_reaches_iff {dir : Text} {more : List Text} (habs : Path.isAbsolute s.cwd = true)
    (h : s.cd (dir :: more) = .ok d) :
    ∃ full, s.world.resolve s.cwd dir = .ok full ∧ Path.normalize full = d ∧
      s.world.tree.isDirectory d = true ∧
      (s.world.tree.isDirectory full = true ↔
        Text.octetCount full < Tree.pathLimit ∧
        ∀ pre post, full = pre ++ "/..".toList ++ post → post = [] ∨ post.head? = some '/' →
          s.world.tree.isDirectory pre = true) := by
  obtain ⟨full, hfull, rfl, hdir⟩ := cd_eq_ok_iff.mp h
  obtain ⟨t, rfl⟩ := Path.isAbsolute_iff.mp (World.isAbsolute_of_resolve habs hfull)
  refine ⟨_, hfull, rfl, hdir, ?_⟩
  simpa using Tree.isDirectory_iff_of_normalize hdir

-- The path leads back over `a`, which is there.
theorem cd_reaches_iff_sibling :
    let w : World :=
      { processCwd := ['/'], home := none, tree := .ofPaths [] ["/w/a".toList, "/w/b".toList] }
    let s : Site := ⟨w, "/w".toList⟩
    Path.isAbsolute s.cwd = true ∧ s.cd ["a/../b".toList] = .ok "/w/b".toList ∧
    w.tree.isDirectory "/w/a/../b".toList = true ∧ w.tree.isDirectory "/w/a".toList = true := by
  intro w s
  have hcd : s.cd ["a/../b".toList] = .ok "/w/b".toList := by decide +kernel
  have hfull : w.tree.isDirectory "/w/a/../b".toList = true := by decide +kernel
  obtain ⟨full, hresolve, -, -, hiff⟩ := cd_reaches_iff (s := s) rfl hcd
  obtain rfl : "/w/a/../b".toList = full := Except.ok.inj (Eq.trans (by decide +kernel) hresolve)
  exact ⟨rfl, hcd, hfull, (hiff.mp hfull).2 "/w/a".toList "/b".toList (by decide) (Or.inr rfl)⟩

-- Two dots take back a name that is not there, and the name of a file.
theorem cd_over_missing :
    let w : World :=
      { processCwd := ['/'], home := none
        tree := .ofPaths [("/w/f".toList, .content [120])] ["/w".toList] }
    let s : Site := ⟨w, "/w".toList⟩
    s.cd ["nope/..".toList] = .ok "/w".toList ∧
    w.tree.lookup "/w/nope/..".toList = .error (.system .noEntry) ∧
    s.cd ["f/..".toList] = .ok "/w".toList ∧
    w.tree.lookup "/w/f/..".toList = .error (.system .notDirectory) ∧
    s.cat ["f".toList] none = .ok (some ['x']) ∧
    s.cat ["nope/../f".toList] none =
      .error (.failure (.unreadable "cat".toList "nope/../f".toList .noEntry)) := by
  refine ⟨?_, ?_, ?_, ?_, ?_, ?_⟩ <;> decide +kernel

end Site

structure Sane (w : World) (first cwd : Text) : Prop where
  absolute : Path.isAbsolute cwd = true
  settled : cwd = first ∨ Path.Normal cwd ∧ w.tree.isDirectory cwd = true

section

variable {w : World} {first cwd d : Text}

lemma Site.normal_of_cd {args : List Text} (h : Path.isAbsolute cwd = true)
    (hcd : Site.cd ⟨w, cwd⟩ args = .ok d) :
    Path.Normal d ∧ w.tree.isDirectory d = true ∧ Path.isAbsolute d = true := by
  obtain ⟨full, hfull, rfl, hdir⟩ := cd_eq_ok_iff.mp hcd
  have habs := World.isAbsolute_of_resolve h hfull
  obtain ⟨t, rfl⟩ := Path.isAbsolute_iff.mp habs
  exact ⟨Path.normal_normalize t, hdir, Path.isAbsolute_normalize habs⟩

lemma Sane.directory (h : Sane w first cwd) (k : Command) : Sane w first (k.directory w cwd) := by
  cases k with
  | simple name args =>
    rw [Command.directory]
    split
    · split
      · rename_i d hcd
        obtain ⟨hnormal, hdir, habs⟩ := Site.normal_of_cd h.absolute hcd
        exact ⟨habs, Or.inr ⟨hnormal, hdir⟩⟩
      · exact h
    · exact h
  | assign name value => exact h
  | flush => exact h

namespace Shell

lemma sane_perform {c : Context} (h : Sane w first c.cwd) (ks : List Command) :
    Sane w first (perform w ks c).state.context.cwd := by
  refine Run.all_invariant (P := fun s => Sane w first s.context.cwd) (fun k s t hs hk => ?_) ks h
  rw [Command.step_context hk]
  exact hs.directory k

lemma sane_execute {c : Context} (h : Sane w first c.cwd) (line : Text) :
    Sane w first (execute w c line).context.cwd := by
  cases hp : (parse c line).fault with
  | some f => rwa [execute_of_not_parses hp]
  | none =>
    rw [(execute_of_parses hp).1]
    exact sane_perform h _

def contextAfter (w : World) (c : Context) (lines : List Text) : Context :=
  lines.foldl (fun c line => (execute w c line).context) c

lemma sane_contextAfter {c : Context} (h : Sane w first c.cwd) (lines : List Text) :
    Sane w first (contextAfter w c lines).cwd := by
  induction lines generalizing c with
  | nil => exact h
  | cons line lines ih => exact ih (sane_execute h line)

lemma sane_start (h : Path.isAbsolute w.processCwd = true) (dir : Option Text) :
    Sane w (Context.start w.processCwd dir).cwd (Context.start w.processCwd dir).cwd := by
  refine ⟨?_, Or.inl rfl⟩
  cases dir with
  | none => exact h
  | some dir => exact Path.isAbsolute_normalize (Path.isAbsolute_join h dir)

lemma step_cd (args : List Text) (s : State) :
    (Command.step w (.simple Builtin.cd.name args) s).outcome =
      (Site.cd ⟨w, s.context.cwd⟩ args).map fun d => s.apply (.moved d) := by
  change (Command.invoke w Builtin.cd.name args s).outcome = _
  rw [Command.invoke_builtin (b := .cd) (by decide), Builtin.run]
  cases Site.cd ⟨w, s.context.cwd⟩ args <;> rfl

end Shell

end

namespace Shell

theorem session_directory (w : World) (habs : Path.isAbsolute w.processCwd = true)
    (dir : Option Text) (lines : List Text) (ks : List Command) :
    let c := Context.start w.processCwd dir
    let s := (perform w ks (contextAfter w c lines)).state
    let cd args := (Command.step w (.simple Builtin.cd.name args) s).outcome
    Path.isAbsolute s.context.cwd = true ∧
    (s.context.cwd = c.cwd ∨
      Path.Normal s.context.cwd ∧ w.tree.isDirectory s.context.cwd = true) ∧
    (∀ args t, cd args = .ok t →
      Path.Normal t.context.cwd ∧ Path.normalize t.context.cwd = t.context.cwd ∧
      w.tree.isDirectory t.context.cwd = true) ∧
    (∀ target more full, w.resolve s.context.cwd target = .ok full →
      w.tree.isDirectory full = true →
        ∃ t place, cd (target :: more) = .ok t ∧ w.tree.node? place = some .directory ∧
          w.tree.locate full = .ok place ∧ w.tree.locate t.context.cwd = .ok place) := by
  intro c s cd
  have hsane : Sane w c.cwd s.context.cwd :=
    sane_perform (sane_contextAfter (sane_start habs dir) lines) ks
  refine ⟨hsane.absolute, hsane.settled, fun args t ht => ?_, fun target more full hfull hdir => ?_⟩
  · obtain ⟨d, hd, rfl⟩ := map_eq_ok_iff.mp ((step_cd args s).symm.trans ht)
    obtain ⟨hnormal, hdir, -⟩ := Site.normal_of_cd hsane.absolute hd
    exact ⟨hnormal, Path.normalize_of_normal hnormal, hdir⟩
  · obtain ⟨place, hplace, hnode⟩ := Tree.isDirectory_iff.mp hdir
    have hsame := Tree.locate_normalize (World.isAbsolute_of_resolve hsane.absolute hfull) hplace
    have hcd : Site.cd ⟨w, s.context.cwd⟩ (target :: more) = .ok (Path.normalize full) :=
      Site.cd_eq_ok_iff.mpr ⟨full, hfull, rfl, Tree.isDirectory_iff.mpr ⟨place, hsame, hnode⟩⟩
    exact ⟨_, place, (step_cd _ s).trans (congrArg _ hcd), hnode, hplace, hsame⟩

-- The second line fails, and the home directory is a relative path that leads back over `a`.
theorem session_directory_home :
    let w : World :=
      { processCwd := "/w/.".toList, home := some "../b//".toList
        tree := .ofPaths [] ["/w/a".toList, "/w/b".toList] }
    let lines := ["cd a".toList, "cat nope; cd /".toList]
    let s := (perform w [] (contextAfter w (.start w.processCwd none) lines)).state
    let full := "/w/a/../b".toList
    Path.isAbsolute w.processCwd = true ∧ w.resolve s.context.cwd ['~'] = .ok full ∧
    w.tree.isDirectory full = true ∧
    ∃ t place, (Command.step w (.simple Builtin.cd.name [['~']]) s).outcome = .ok t ∧
      w.tree.node? place = some .directory ∧ w.tree.locate full = .ok place ∧
      w.tree.locate t.context.cwd = .ok place := by
  intro w lines s full
  have hfull : w.resolve s.context.cwd ['~'] = .ok full := by decide +kernel
  have hdir : w.tree.isDirectory full = true := by decide +kernel
  exact ⟨rfl, hfull, hdir, (session_directory w rfl none lines []).2.2.2 ['~'] [] full hfull hdir⟩

end Shell

end LineShell
