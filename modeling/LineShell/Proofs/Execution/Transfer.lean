import LineShell.Proofs.Execution.Totals
import LineShell.Proofs.Text.Lines
import LineShell.Proofs.Text.Utf8
import LineShell.Proofs.World.Walk

/-! Texts that go through a file or through a program that copies its input. They come back with
their line ends unified and with nothing else changed. -/

namespace LineShell

namespace Text

def readAt : Text → Option Char
  | [] => none
  | c :: rest =>
    if c = '\r' then if rest.head? = some '\n' then none else some '\n'
    else some c

def withLineFeeds (t : Text) : Text :=
  t.tails.filterMap readAt

def crlfs (t : Text) : Nat :=
  (t.zip t.tail).count ('\r', '\n')

lemma withLineFeeds_cons (c : Char) (cs : Text) :
    withLineFeeds (c :: cs) = (readAt (c :: cs)).toList ++ withLineFeeds cs := by
  rw [withLineFeeds, List.tails, List.filterMap_cons]
  cases readAt (c :: cs) <;> rfl

lemma crlfs_cons (c : Char) (cs : Text) :
    crlfs (c :: cs) = crlfs cs + if c = '\r' ∧ cs.head? = some '\n' then 1 else 0 := by
  cases cs with
  | nil => simp [crlfs]
  | cons d ds => simp [crlfs, List.count_cons]

lemma unifyNewlines_eq_withLineFeeds (t : Text) : unifyNewlines t = withLineFeeds t := by
  fun_induction unifyNewlines t with
  | case1 => rfl
  | case2 cs ih => simp [withLineFeeds_cons, readAt, ih]
  | case3 c cs hpair ih =>
    rw [withLineFeeds_cons, ih]
    by_cases hc : c = '\r'
    · have hhead : cs.head? ≠ some '\n' := by
        intro h
        obtain ⟨ds, rfl⟩ := List.head?_eq_some_iff.mp h
        exact hpair ds hc rfl
      simp [readAt, hc, hhead]
    · simp [readAt, hc]

lemma return_not_mem_withLineFeeds (t : Text) : '\r' ∉ withLineFeeds t := by
  intro h
  obtain ⟨rest, -, hread⟩ := List.mem_filterMap.mp h
  cases rest with
  | nil => cases hread
  | cons c rest =>
    dsimp only [readAt] at hread
    split_ifs at hread with hc hnext
    · cases hread
    · exact hc (Option.some.inj hread)

lemma withLineFeeds_eq_self_iff (t : Text) : withLineFeeds t = t ↔ '\r' ∉ t := by
  constructor
  · intro h
    rw [← h]
    exact return_not_mem_withLineFeeds t
  · intro h
    induction t with
    | nil => rfl
    | cons c cs ih =>
      obtain ⟨hc, hcs⟩ := not_or.mp (mt List.mem_cons.mpr h)
      rw [withLineFeeds_cons, ih hcs, readAt, if_neg (Ne.symm hc)]
      rfl

lemma octetCount_cons (c : Char) (cs : Text) :
    octetCount (c :: cs) = (encodeChar c).length + octetCount cs := by
  rw [octetCount, encode, List.flatMap_cons, List.length_append]
  rfl

-- A pair loses one octet, and a carriage return that stands alone none.
lemma octetCount_readAt (c : Char) (cs : Text) :
    (octetCount (readAt (c :: cs)).toList + if c = '\r' ∧ cs.head? = some '\n' then 1 else 0) =
      (encodeChar c).length := by
  by_cases hc : c = '\r'
  · subst hc
    by_cases hnext : cs.head? = some '\n'
    · rw [readAt, if_pos rfl, if_pos hnext, if_pos ⟨rfl, hnext⟩]
      rfl
    · rw [readAt, if_pos rfl, if_neg hnext, if_neg fun h => hnext h.2]
      rfl
  · rw [readAt, if_neg hc, if_neg fun h => hc h.1]
    exact octetCount_cons c []

lemma octetCount_withLineFeeds (t : Text) :
    octetCount (withLineFeeds t) + crlfs t = octetCount t := by
  induction t with
  | nil => rfl
  | cons c cs ih =>
    have hfirst := octetCount_readAt c cs
    rw [withLineFeeds_cons, octetCount_append, crlfs_cons, octetCount_cons]
    omega

end Text

lemma World.textOf_encode (t : Text) : World.textOf (Text.encode t) = t.withLineFeeds := by
  rw [textOf, Text.decode_encode, Text.unifyNewlines_eq_withLineFeeds]

namespace Site

variable {s : Site} {t : Text}

lemma readFile_of_encode {path full : Text} (hfull : s.world.resolve s.cwd path = .ok full)
    (hfile : s.world.tree.read full = .ok (Text.encode t)) (command : Text) :
    s.readFile command path = .ok t.withLineFeeds := by
  rw [readFile_of_read hfull hfile, World.textOf_encode]

lemma external_of_copier {name : Text} {args : List Text} {errors : Text.Octets} {status : Int}
    (hdir : s.world.tree.isDirectory s.cwd = true)
    (hprogram : s.world.programs.lookup name = some (.runs [] errors true status))
    (hnull : ∀ arg ∈ name :: args, '\x00' ∉ arg) :
    s.external name args (some t) =
      ([⟨name :: args, t, s.cwd⟩], .ok (t.withLineFeeds, status)) := by
  have hlookup := Tree.lookup_eq_ok_iff.mpr (Tree.isDirectory_iff.mp hdir)
  have hfit : ¬ (name :: args).any (·.contains '\x00') = true := by
    rw [List.any_eq_true]
    rintro ⟨arg, harg, hcontains⟩
    exact hnull arg harg (List.contains_iff_mem.mp hcontains)
  have hperform : s.world.perform ⟨name :: args, t, s.cwd⟩ = .ok (t.withLineFeeds, status) := by
    rw [← World.textOf_encode]
    unfold World.perform
    rw [hlookup]
    dsimp only [bind, Except.bind, List.head?_cons, Option.bind_some]
    exact hprogram ▸ rfl
  rw [external, if_neg hfit]
  dsimp only [Option.getD_some]
  rw [hperform]
  rfl

theorem texts_keep_up_to_newlines (s : Site) (t : Text) :
    let octets := t.flatMap String.utf8EncodeChar
    let kept := t.withLineFeeds
    let size := octets.length - t.crlfs
    (∀ path full, s.world.resolve s.cwd path = .ok full → s.world.tree.read full = .ok octets →
      (∀ command, s.readFile command path = .ok kept) ∧
      ∀ pipe, s.cat [path] pipe = .ok (some kept) ∧
        s.wc [path] pipe = .ok (Nat.toDigits 10 (kept.count '\n') ++ [' '] ++
          Nat.toDigits 10 kept.wordCount ++ [' '] ++ Nat.toDigits 10 size ++ [' '] ++ path ++
          ['\n'])) ∧
    (∀ name args errors status, s.world.tree.isDirectory s.cwd = true →
      s.world.programs.lookup name = some (.runs [] errors true status) →
      (∀ arg ∈ name :: args, '\x00' ∉ arg) →
      s.external name args (some t) = ([⟨name :: args, t, s.cwd⟩], .ok (kept, status))) ∧
    t.crlfs ≤ octets.length ∧ (kept = t ↔ '\r' ∉ t) ∧
    (kept = t ∧ size = octets.length ↔ '\r' ∉ t) := by
  intro octets kept size
  have hoctets : octets = Text.encode t := (Text.encode_eq_flatMap t).symm
  have hcount : kept.octetCount + t.crlfs = octets.length :=
    hoctets ▸ Text.octetCount_withLineFeeds t
  have hsize : kept.octetCount = size := by omega
  have hsame := Text.withLineFeeds_eq_self_iff t
  refine ⟨fun path full hfull hfile => ?_, fun name args errors status => external_of_copier, by omega,
    hsame, ⟨fun h => hsame.mp h.1, fun h => ⟨hsame.mpr h, ?_⟩⟩⟩
  · have hread := readFile_of_encode hfull (hoctets ▸ hfile)
    have htexts : ∀ command, [path].mapM (s.readFile command) = .ok [kept] := by
      intro command
      rw [List.mapM_cons, hread]
      rfl
    refine ⟨hread, fun pipe => ⟨?_, ?_⟩⟩
    · have hcat := cat_of_texts (List.cons_ne_nil path []) htexts pipe
      rwa [List.flatten_singleton] at hcat
    · have hwc := wc_of_texts (List.cons_ne_nil path []) htexts pipe
      simpa [asLines, Counts.render_eq, Counts.ofText, ← hsize] using hwc
  · have hkept : kept.octetCount = octets.length := by
      rw [hoctets, show kept = t from hsame.mpr h]
      rfl
    omega

-- Characters of all four lengths, a pair and a carriage return that stands alone.
theorem texts_keep_up_to_newlines_mixed :
    let t : Text := "a\r\né\r€😀".toList
    let tree := Tree.ofPaths
      [("/work/a".toList, .content (t.flatMap String.utf8EncodeChar))] []
    let programs : List (Text × Program) := [("copy".toList, .runs [] [] true 0)]
    let w : World :=
      { processCwd := "/work".toList, home := none, tree := tree, programs := programs }
    let s : Site := ⟨w, "/work".toList⟩
    (s.world.resolve s.cwd ['a'] = .ok "/work/a".toList ∧
      s.world.tree.read "/work/a".toList = .ok (t.flatMap String.utf8EncodeChar) ∧
      s.world.tree.isDirectory s.cwd = true ∧
      s.world.programs.lookup "copy".toList = some (.runs [] [] true 0) ∧
      ∀ arg ∈ ["copy".toList], '\x00' ∉ arg) ∧
    s.cat [['a']] none = .ok (some "a\né\n€😀".toList) ∧
    s.wc [['a']] none = .ok "2 3 12 a\n".toList ∧
    (s.external "copy".toList [] (some t)).2 = .ok ("a\né\n€😀".toList, 0) := by
  intro t tree programs w s
  have hfull : s.world.resolve s.cwd ['a'] = .ok "/work/a".toList := by decide +kernel
  have hfile : s.world.tree.read "/work/a".toList = .ok (t.flatMap String.utf8EncodeChar) := by
    decide +kernel
  have hdir : s.world.tree.isDirectory s.cwd = true := by decide +kernel
  have hprogram : s.world.programs.lookup "copy".toList = some (.runs [] [] true 0) := by
    decide +kernel
  have hnull : ∀ arg ∈ ["copy".toList], '\x00' ∉ arg :=
    List.forall_mem_singleton.mpr (by decide +kernel)
  obtain ⟨hread, hcopy, -⟩ := texts_keep_up_to_newlines s t
  obtain ⟨-, hpipe⟩ := hread _ _ hfull hfile
  obtain ⟨hcat, hwc⟩ := hpipe none
  refine ⟨⟨hfull, hfile, hdir, hprogram, hnull⟩, hcat.trans ?_, hwc.trans ?_, ?_⟩
  · decide +kernel
  · decide +kernel
  · rw [hcopy _ _ _ _ hdir hprogram hnull]
    decide +kernel

end Site

end LineShell
