import LineShell.Proofs.Execution.Breakdown
import LineShell.Proofs.Grep.Excerpt
import LineShell.Proofs.Text.Lines

/-! Searches of several files. The lines that are found carry the path of their file and the gaps do
not. A line is told from a gap by its text alone, so one that reads like a gap loses its path. -/

namespace LineShell

open Grep (Row)

def Grep.Row.label (path : Text) : Row → Text
  | .line l _ => path ++ ':' :: l
  | .gap => separator

namespace Site

lemma labelled_separator (path : Text) : labelled path Grep.separator = Grep.separator :=
  if_pos rfl

lemma labelled_of_ne {l : Text} (h : l ≠ Grep.separator) (path : Text) :
    labelled path l = path ++ ':' :: l :=
  if_neg h

lemma labelled_sublist (path : Text) (e : Row) :
    (labelled path e.text).Sublist (e.label path) := by
  cases e with
  | line l i =>
    change (labelled path l).Sublist (path ++ ':' :: l)
    by_cases h : l = Grep.separator
    · rw [h, labelled_separator]
      exact (List.sublist_cons_self _ _).trans (List.sublist_append_right _ _)
    · rw [labelled_of_ne h]
  | gap =>
    change (labelled path Grep.separator).Sublist Grep.separator
    rw [labelled_separator]

lemma labelled_eq_label_iff {path : Text} {e : Row} :
    labelled path e.text = e.label path ↔ ∀ l i, e = .line l i → l ≠ Grep.separator := by
  cases e with
  | line l i =>
    change labelled path l = path ++ ':' :: l ↔ _
    constructor
    · rintro h _ _ heq rfl
      obtain ⟨rfl, -⟩ := Row.line.inj heq
      rw [labelled_separator] at h
      have hlength := congrArg List.length h
      rw [List.length_append, List.length_cons] at hlength
      omega
    · exact fun h => labelled_of_ne (h l i rfl) path
  | gap => exact iff_of_true (labelled_separator path) (by simp)

section

variable {s : Site} {args : List Text} {r : Grep.Request} {p : Pattern.Search}
  {content : Text → Text}

lemma grep_of_files (hr : Grep.parse args = .ok r)
    (hp : Grep.compile s.world.charNames r.options r.pattern = .ok p) (hpaths : 1 < r.paths.length)
    (hread : ∀ path ∈ r.paths, s.readFile "grep".toList path = .ok (content path))
    (pipe : Option Text) :
    s.grep args pipe = .ok (asLines (r.paths.flatMap fun path =>
      (Grep.select p.finds r.options.after (content path).splitLines).map (labelled path))) := by
  have hsome : ¬ r.paths.isEmpty = true := by
    rw [List.isEmpty_iff]
    exact List.ne_nil_of_length_pos (by omega)
  have hfiles : ∀ path ∈ r.paths, s.grepFile p.finds r.options.after true path =
      .ok ((Grep.select p.finds r.options.after (content path).splitLines).map
        (labelled path)) := by
    intro path hpath
    rw [grepFile_eq_map, hread path hpath]
    rfl
  rw [grep_of_request hr hp, if_neg hsome, decide_eq_true hpaths, mapM_eq_ok_map hfiles]
  rfl

lemma asLines_flatMap {α : Type} (f : α → List Text) (xs : List α) :
    asLines (xs.flatMap f) = xs.flatMap fun x => asLines (f x) :=
  List.flatMap_assoc

lemma asLines_map {α : Type} (f : α → Text) (xs : List α) :
    asLines (xs.map f) = xs.flatMap fun x => f x ++ ['\n'] :=
  List.flatMap_map f _ xs

-- What is written for a row is never longer than what the row is to read, so the texts can only
-- be the same if each of their parts is.
lemma asLines_labelled_eq_iff (found : Text → List Row) (paths : List Text) :
    asLines (paths.flatMap fun path => (found path).map fun e => labelled path e.text) =
        asLines (paths.flatMap fun path => (found path).map (Row.label path)) ↔
      ∀ path ∈ paths, ∀ e ∈ found path, labelled path e.text = e.label path := by
  have hsub : ∀ path, ∀ e ∈ found path,
      (labelled path e.text ++ ['\n']).Sublist (e.label path ++ ['\n']) :=
    fun path e _ => (labelled_sublist path e).append_right _
  simp only [asLines_flatMap, asLines_map]
  constructor
  · intro h path hpath e he
    have hpaths := Text.eq_of_flatMap_eq
      (fun path _ => List.Sublist.flatMap_right (found path) (hsub path)) h path hpath
    exact List.append_cancel_right (Text.eq_of_flatMap_eq (hsub path) hpaths e he)
  · intro h
    refine List.flatMap_congr fun path hpath => List.flatMap_congr fun e he => ?_
    rw [h path hpath e he]

theorem grep_labels_iff (hr : Grep.parse args = .ok r)
    (hp : Grep.compile s.world.charNames r.options r.pattern = .ok p) (hpaths : 1 < r.paths.length)
    (hread : ∀ path ∈ r.paths, s.readFile "grep".toList path = .ok (content path))
    (pipe : Option Text) :
    let found path := Grep.excerpt p.finds r.options.after (content path).splitLines
    ∃ out, s.grep args pipe = .ok out ∧
      out = asLines (r.paths.flatMap fun path => (found path).map fun e => labelled path e.text) ∧
      (out = asLines (r.paths.flatMap fun path => (found path).map (Row.label path)) ↔
        ∀ path ∈ r.paths, ∀ l i, .line l i ∈ found path → l ≠ Grep.separator) := by
  intro found
  have hout := grep_of_files hr hp hpaths hread pipe
  simp only [Grep.select_eq_map_text, List.map_map] at hout
  refine ⟨_, hout, rfl, (asLines_labelled_eq_iff found r.paths).trans ?_⟩
  constructor
  · intro h path hpath l i hl
    exact labelled_eq_label_iff.mp (h path hpath _ hl) l i rfl
  · intro h path hpath e he
    exact labelled_eq_label_iff.mpr fun l i heq => h path hpath l i (heq ▸ he)

end

theorem grep_labels_iff_context :
    let tree := Tree.ofPaths [("/work/a".toList, .content (Text.encode "x\ny\nz\nx\n".toList)),
      ("/work/b".toList, .content (Text.encode "x\n".toList))] []
    let s : Site := ⟨{ processCwd := "/work".toList, home := none, tree := tree }, "/work".toList⟩
    let args := ["-A1", "x", "a", "b"].map String.toList
    let r : Grep.Request := ⟨{ after := 1 }, ['x'], [['a'], ['b']]⟩
    let p : Pattern.Search := ⟨.char {} (.code 120 false), none, false⟩
    let content (path : Text) : Text := if path = ['a'] then "x\ny\nz\nx\n".toList else "x\n".toList
    (Grep.parse args = .ok r ∧ Grep.compile s.world.charNames r.options r.pattern = .ok p ∧
      1 < r.paths.length ∧
      ∀ path ∈ r.paths, s.readFile "grep".toList path = .ok (content path)) ∧
    s.grep args none = .ok "a:x\na:y\n--\na:x\nb:x\n".toList := by
  intro tree s args r p content
  have hr : Grep.parse args = .ok r := by decide +kernel
  have hp : Grep.compile s.world.charNames r.options r.pattern = .ok p := by decide +kernel
  have hpaths : 1 < r.paths.length := by decide
  have hread : ∀ path ∈ r.paths, s.readFile "grep".toList path = .ok (content path) := by
    refine List.forall_mem_cons.mpr ⟨?_, List.forall_mem_singleton.mpr ?_⟩ <;> decide +kernel
  have hlines : ∀ path ∈ r.paths, ∀ e ∈ Grep.excerpt p.finds 1 (content path).splitLines,
      e = .gap ∨ e.text ≠ Grep.separator := by decide +kernel
  obtain ⟨out, hout, -, hiff⟩ := grep_labels_iff hr hp hpaths hread none
  refine ⟨⟨hr, hp, hpaths, hread⟩, hout.trans (congrArg _ ((hiff.mpr ?_).trans ?_))⟩
  · exact fun path hpath l i hl => (hlines path hpath _ hl).resolve_left (by simp)
  · decide +kernel

-- The separator is also a line that a file may hold.
theorem grep_separator_line :
    let tree := Tree.ofPaths [("/work/a".toList, .content (Text.encode "--\n".toList)),
      ("/work/b".toList, .content (Text.encode "x\n".toList))] []
    let s : Site := ⟨{ processCwd := "/work".toList, home := none, tree := tree }, "/work".toList⟩
    let p : Pattern.Search := ⟨.char {} .any, none, false⟩
    Grep.compile s.world.charNames {} ['.'] = .ok p ∧
    s.grep ([".", "a", "b"].map String.toList) none = .ok "--\nb:x\n".toList ∧
    asLines ((Grep.excerpt p.finds 0 ["--".toList]).map (Row.label ['a']) ++
      (Grep.excerpt p.finds 0 ["x".toList]).map (Row.label ['b'])) = "a:--\nb:x\n".toList := by
  refine ⟨?_, ?_, ?_⟩ <;> decide +kernel

end Site

end LineShell
