import LineShell.Proofs.Execution.Breakdown
import Mathlib.Algebra.GroupWithZero.Nat
import Mathlib.Data.List.Flatten

namespace LineShell

namespace Text

def joins (s t : Text) : Bool :=
  s.getLast?.any (!isBlank ·) && t.head?.any (!isBlank ·)

def joints (ts : List Text) : Nat :=
  let us := ts.filter (· ≠ [])
  (us.zip us.tail).countP fun p => joins p.1 p.2

lemma wordStarts_append (fresh : Bool) (s t : Text) :
    wordStarts fresh (s ++ t) =
      wordStarts fresh s + wordStarts (s.getLast?.elim fresh isBlank) t := by
  induction s generalizing fresh with
  | nil => simp [wordStarts]
  | cons c cs ih =>
    rw [List.cons_append, wordStarts, wordStarts, ih, List.getLast?_cons, Nat.add_assoc]
    cases cs.getLast? <;> rfl

lemma wordStarts_true (t : Text) :
    wordStarts true t = wordStarts false t + if t.head?.any (!isBlank ·) then 1 else 0 := by
  cases t with
  | nil => rfl
  | cons c cs =>
    rw [wordStarts, wordStarts]
    cases hc : isBlank c <;> simp [hc, Nat.add_comm]

lemma wordCount_append (s t : Text) :
    wordCount s + wordCount t = wordCount (s ++ t) + if joins s t then 1 else 0 := by
  unfold wordCount
  rw [wordStarts_append, joins]
  cases hlast : s.getLast? with
  | none => simp
  | some c =>
    cases hc : isBlank c with
    | true => simp [hc]
    | false => simp [hc, wordStarts_true t, Nat.add_assoc]

lemma joints_nil_cons (ts : List Text) : joints ([] :: ts) = joints ts := by
  simp [joints]

lemma joints_cons {t : Text} (ht : t ≠ []) (ts : List Text) :
    joints (t :: ts) = joints ts + if joins t ts.flatten then 1 else 0 := by
  -- The rest of the whole starts with the first text that is not empty.
  have hhead : ts.flatten.head? = (ts.filter (· ≠ [])).head?.bind List.head? := by
    induction ts with
    | nil => rfl
    | cons u us ih =>
      cases u with
      | nil => simpa using ih
      | cons c cs => simp
  have hflat : joins t ts.flatten = (ts.filter (· ≠ [])).head?.any (joins t) := by
    unfold joins
    rw [hhead]
    cases (ts.filter (· ≠ [])).head? <;> simp
  rw [hflat, joints, joints, List.filter_cons_of_pos (by simpa using ht)]
  cases ts.filter (· ≠ []) with
  | nil => rfl
  | cons u us => cases hu : joins t u <;> simp [hu]

lemma wordCount_flatten (ts : List Text) :
    (ts.map wordCount).sum = wordCount ts.flatten + joints ts := by
  induction ts with
  | nil => rfl
  | cons t ts ih =>
    rw [List.map_cons, List.sum_cons, ih, List.flatten_cons]
    cases t with
    | nil => simp [joints_nil_cons, wordCount, wordStarts]
    | cons c cs =>
      have hseam := wordCount_append (c :: cs) ts.flatten
      rw [joints_cons (List.cons_ne_nil c cs)]
      omega

lemma joints_eq_zero {ts : List Text}
    (h : ∀ t ∈ ts, ∀ c, t.getLast? = some c → isBlank c = true) : joints ts = 0 := by
  induction ts with
  | nil => rfl
  | cons t ts ih =>
    obtain ⟨ht, hts⟩ := List.forall_mem_cons.mp h
    cases t with
    | nil => rw [joints_nil_cons, ih hts]
    | cons c cs =>
      have hapart : joins (c :: cs) ts.flatten = false := by
        rw [joins]
        cases hlast : (c :: cs).getLast? with
        | none => rfl
        | some d => simp [ht d hlast]
      rw [joints_cons (List.cons_ne_nil c cs), hapart, ih hts]
      rfl

lemma octetCount_append (s t : Text) : octetCount (s ++ t) = octetCount s + octetCount t := by
  rw [octetCount, encode, List.flatMap_append, List.length_append]
  rfl

lemma octetCount_flatten (ts : List Text) :
    (ts.map octetCount).sum = octetCount ts.flatten := by
  induction ts with
  | nil => rfl
  | cons t ts ih => rw [List.map_cons, List.sum_cons, ih, List.flatten_cons, octetCount_append]

lemma joinWith_lineFeed {rows : List Text} (h : rows ≠ []) :
    joinWith ['\n'] rows ++ ['\n'] = rows.flatMap (· ++ ['\n']) := by
  induction rows with
  | nil => contradiction
  | cons r rows ih =>
    cases rows with
    | nil => simp [joinWith]
    | cons q qs =>
      rw [List.flatMap_cons, ← ih (List.cons_ne_nil q qs), joinWith, List.append_assoc]
      exact List.cons_ne_nil q qs

end Text

namespace Counts

def ofTexts (ts : List Text) : Counts where
  lines := (ts.map (·.count '\n')).sum
  words := (ts.map (·.wordCount)).sum
  octets := (ts.map (·.octetCount)).sum

lemma render_eq (c : Counts) :
    c.render = Nat.toDigits 10 c.lines ++ [' '] ++ Nat.toDigits 10 c.words ++ [' '] ++
      Nat.toDigits 10 c.octets := by
  simp [render, Text.ofNat]

lemma foldl_add (c : Counts) (ts : List Text) :
    (ts.map ofText).foldl add c = c.add (ofTexts ts) := by
  induction ts generalizing c with
  | nil => rfl
  | cons t ts ih =>
    rw [List.map_cons, List.foldl_cons, ih]
    simp only [add, ofText, ofTexts, List.map_cons, List.sum_cons, Nat.add_assoc]

lemma total_ofText (ts : List Text) : total (ts.map ofText) = ofTexts ts := by
  rw [total, foldl_add]
  simp [add]

end Counts

namespace Site

variable {s : Site} {paths texts : List Text}

lemma readFile_of_read {path full : Text} {bytes : Text.Octets}
    (hfull : s.world.resolve s.cwd path = .ok full) (hbytes : s.world.tree.read full = .ok bytes)
    (command : Text) : s.readFile command path = .ok (World.textOf bytes) := by
  rw [readFile_of_ok hfull, hbytes]

lemma exists_texts (h : ∀ p ∈ paths, s.world.Readable s.cwd p) :
    ∃ texts, ∀ command, paths.mapM (s.readFile command) = .ok texts := by
  induction paths with
  | nil => exact ⟨[], fun _ => rfl⟩
  | cons p ps ih =>
    obtain ⟨⟨full, bytes, hfull, hbytes⟩, hps⟩ := List.forall_mem_cons.mp h
    obtain ⟨texts, htexts⟩ := ih hps
    refine ⟨World.textOf bytes :: texts, fun command => ?_⟩
    rw [List.mapM_cons, readFile_of_read hfull hbytes, htexts]
    rfl

lemma cat_of_texts (hne : paths ≠ []) (h : ∀ command, paths.mapM (s.readFile command) = .ok texts)
    (pipe : Option Text) : s.cat paths pipe = .ok (some texts.flatten) := by
  rw [cat, if_neg (by simpa using hne), h]
  rfl

lemma texts_ne_nil {command : Text} (hne : paths ≠ [])
    (h : paths.mapM (s.readFile command) = .ok texts) : texts ≠ [] := by
  rintro rfl
  obtain ⟨p, ps, rfl⟩ := List.exists_cons_of_ne_nil hne
  rw [List.mapM_cons] at h
  obtain ⟨t, -, hrest⟩ := bind_eq_ok_iff.mp h
  obtain ⟨ts, -, hts⟩ := bind_eq_ok_iff.mp hrest
  cases hts

lemma wc_of_texts (hne : paths ≠ []) (h : ∀ command, paths.mapM (s.readFile command) = .ok texts)
    (pipe : Option Text) :
    s.wc paths pipe = .ok (asLines
      (List.zipWith (fun t p => (Counts.ofText t).render ++ [' '] ++ p) texts paths ++
        if 1 < paths.length then [(Counts.ofTexts texts).render ++ " total".toList] else [])) := by
  have hcounts := mapM_map (s.readFile "wc".toList) Counts.ofText paths
  have hrows : ((texts.map Counts.ofText).zip paths).map (fun r => r.1.render ++ ' ' :: r.2) =
      List.zipWith (fun t p => (Counts.ofText t).render ++ [' '] ++ p) texts paths := by
    rw [List.zip_map_left, List.map_map, List.zip_eq_zipWith, List.map_zipWith]
    simp
  have hwc : s.wc paths pipe =
      (paths.mapM fun p => (s.readFile "wc".toList p).map Counts.ofText).map fun counts =>
        Text.joinWith ['\n'] ((counts.zip paths).map (fun r => r.1.render ++ ' ' :: r.2) ++
          if 1 < paths.length then [(Counts.total counts).render ++ " total".toList] else []) ++
        ['\n'] := by
    obtain ⟨p, ps, rfl⟩ := List.exists_cons_of_ne_nil hne
    rfl
  rw [hwc, hcounts, h, asLines, ← Text.joinWith_lineFeed, ← hrows, ← Counts.total_ofText]
  · rfl
  · simp [hne, texts_ne_nil hne (h [])]

theorem wc_total_of_files (hmany : 1 < paths.length)
    (hread : ∀ p ∈ paths, s.world.Readable s.cwd p) :
    ∃ texts, (∀ command, paths.mapM (s.readFile command) = .ok texts) ∧
      let total := Counts.ofTexts texts
      let piped := Counts.ofText texts.flatten
      let row (c : Counts) : Text :=
        Nat.toDigits 10 c.lines ++ [' '] ++ Nat.toDigits 10 c.words ++ [' '] ++
          Nat.toDigits 10 c.octets
      (∀ pipe, s.wc paths pipe = .ok
        ((List.zipWith (fun t p => row (Counts.ofText t) ++ [' '] ++ p) texts paths ++
          [row total ++ " total".toList]).flatMap (· ++ ['\n']))) ∧
      (∀ pipe, s.cat paths pipe = .ok (some texts.flatten)) ∧
      s.wc [] (some texts.flatten) = .ok (row piped ++ ['\n']) ∧
      total.lines = piped.lines ∧ total.octets = piped.octets ∧
      total.words = piped.words + Text.joints texts ∧
      ((∀ t ∈ texts, ∀ c, t.getLast? = some c → Text.isBlank c = true) → total = piped) := by
  obtain ⟨texts, htexts⟩ := exists_texts hread
  have hne : paths ≠ [] := List.ne_nil_of_length_pos (by omega)
  have hlines : (Counts.ofTexts texts).lines = (Counts.ofText texts.flatten).lines :=
    (List.count_flatten).symm
  have hoctets : (Counts.ofTexts texts).octets = (Counts.ofText texts.flatten).octets :=
    Text.octetCount_flatten texts
  have hwords : (Counts.ofTexts texts).words =
      (Counts.ofText texts.flatten).words + Text.joints texts := Text.wordCount_flatten texts
  refine ⟨texts, htexts, fun pipe => ?_, cat_of_texts hne htexts, ?_, hlines, hoctets, hwords,
    fun hblank => ?_⟩
  · have hwc := wc_of_texts hne htexts pipe
    simpa only [if_pos hmany, Counts.render_eq, asLines] using hwc
  · simp only [← Counts.render_eq]
    rfl
  · rw [Text.joints_eq_zero hblank, Nat.add_zero] at hwords
    change Counts.mk _ _ _ = Counts.mk _ _ _
    rw [Counts.mk.injEq]
    exact ⟨hlines, hwords, hoctets⟩

-- The word that starts in the first file ends in the third one.
theorem wc_total_of_files_seam :
    let tree := Tree.ofPaths [("/work/a".toList, .content (Text.encode "x é".toList)),
      ("/work/b".toList, .content []), ("/work/c".toList, .content (Text.encode "y z\n".toList))] []
    let s : Site := ⟨{ processCwd := "/work".toList, home := none, tree := tree }, "/work".toList⟩
    let paths : List Text := [['a'], ['b'], ['c']]
    let texts : List Text := ["x é".toList, [], "y z\n".toList]
    (1 < paths.length ∧ ∀ p ∈ paths, s.world.Readable s.cwd p) ∧
    s.wc paths none = .ok "0 2 4 a\n0 0 0 b\n1 2 4 c\n1 4 8 total\n".toList ∧
    s.wc [] (some texts.flatten) = .ok "1 3 8\n".toList ∧ Text.joints texts = 1 := by
  intro tree s paths texts
  have hmany : 1 < paths.length := by decide
  have htexts : paths.mapM (s.readFile "wc".toList) = .ok texts := by decide +kernel
  have hread : ∀ p ∈ paths, s.world.Readable s.cwd p := by
    refine List.forall_mem_cons.mpr ⟨?_, List.forall_mem_cons.mpr ⟨?_,
      List.forall_mem_singleton.mpr ?_⟩⟩
    · exact readFile_eq_ok_iff.mp ⟨"x é".toList, (by decide +kernel : s.readFile [] ['a'] = _)⟩
    · exact readFile_eq_ok_iff.mp ⟨[], (by decide +kernel : s.readFile [] ['b'] = _)⟩
    · exact readFile_eq_ok_iff.mp ⟨"y z\n".toList, (by decide +kernel : s.readFile [] ['c'] = _)⟩
  obtain ⟨texts', htexts', hwc, -, hpiped, -⟩ := wc_total_of_files hmany hread
  obtain rfl := Except.ok.inj ((htexts' _).symm.trans htexts)
  refine ⟨⟨hmany, hread⟩, (hwc none).trans ?_, hpiped.trans ?_, ?_⟩ <;> decide +kernel

end Site

end LineShell
