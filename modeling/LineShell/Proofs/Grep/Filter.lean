import LineShell.Proofs.Execution.Breakdown
import LineShell.Proofs.Execution.Run
import LineShell.Proofs.Text.Lines

namespace LineShell

namespace Grep

lemma selectFrom_zero (hit : Text → Bool) (written gap : Bool) (lines : List Text) :
    selectFrom hit 0 0 written gap lines = lines.filter hit := by
  induction lines generalizing written gap with
  | nil => rfl
  | cons l lines ih => cases hl : hit l <;> simp [selectFrom, hl, ih]

end Grep

namespace Site

variable {args : List Text} {p : Pattern.Search}

def Filters (known : Text → Option Char) (args : List Text) (p : Pattern.Search) : Prop :=
  ∃ r, Grep.parse args = .ok r ∧ r.paths = [] ∧ r.options.after = 0 ∧
    Grep.compile known r.options r.pattern = .ok p

def sieved (ps : List Pattern.Search) (t : Text) : Text :=
  asLines (t.splitLines.filter fun l => ps.all (·.finds l))

lemma sieved_singleton (p : Pattern.Search) (t : Text) :
    sieved [p] t = asLines (t.splitLines.filter p.finds) := by
  simp [sieved]

lemma sieved_sieved (ps qs : List Pattern.Search) (t : Text) :
    sieved qs (sieved ps t) = sieved (ps ++ qs) t := by
  have hlines : (sieved ps t).splitLines = t.splitLines.filter fun l => ps.all (·.finds l) :=
    Text.splitLines_asLines fun l hl => t.unbroken_of_mem_splitLines l (List.mem_filter.mp hl).1
  rw [sieved, hlines, List.filter_filter, sieved]
  simp only [List.all_append, Bool.and_comm]

lemma grep_of_filters {s : Site} (h : Filters s.world.charNames args p) (pipe : Option Text) :
    s.grep args pipe = .ok (sieved [p] (pipe.getD [])) := by
  obtain ⟨r, hr, hpaths, hafter, hp⟩ := h
  rw [grep_of_request hr hp, if_pos (List.isEmpty_iff.mpr hpaths), hafter, Grep.select,
    Grep.selectFrom_zero, sieved_singleton]

theorem grep_feedLines_iff {s : Site} (h : Filters s.world.charNames args p) (t : Text) :
    ∃ out, s.grep args (some t) = .ok out ∧
      (out = asLines (t.feedLines.filter p.finds) ↔
        ∀ piece ∈ t.feedPieces, ¬ piece.FeedsOnly →
          p.finds piece.beforeFeed = false ∧ ∀ l ∈ piece.splitLines, p.finds l = false) ∧
      ((∀ l ∈ t.feedLines, p.finds l = true) → (out = t.withFinalNewline ↔ t.FeedsOnly)) ∧
      ((∀ l ∈ t.splitLines, p.finds l = true) → t.getLast? = some '\n' →
        ((Counts.ofText out).lines = (Counts.ofText t).lines ↔ t.IsChain Text.EndsByFeed)) := by
  have hunbroken : ∀ l ∈ t.splitLines.filter p.finds, Text.Unbroken l :=
    fun l hl => t.unbroken_of_mem_splitLines l (List.mem_filter.mp hl).1
  have hfound : ∀ l ∈ t.splitLines.filter p.finds, '\n' ∉ l :=
    fun l hl => (hunbroken l hl).not_mem_feed
  refine ⟨sieved [p] t, grep_of_filters h (some t), ?_⟩
  rw [sieved_singleton]
  refine ⟨?_, fun hall => ?_, fun hall hlast => ?_⟩
  · have hlines : ∀ l ∈ t.feedLines.filter p.finds, '\n' ∉ l :=
      fun l hl => t.not_mem_feed_of_mem_feedLines l (List.mem_filter.mp hl).1
    rw [Text.asLines_inj hfound hlines, eq_comm]
    exact Text.filter_feedLines_iff p.finds t
  · constructor
    · intro hout c hc
      have honly := Text.feedsOnly_asLines hunbroken
      rw [hout] at honly
      exact honly c (Text.mem_withFinalNewline hc)
    · intro honly
      rw [Text.splitLines_eq_feedLines honly, List.filter_eq_self.mpr hall, Text.asLines_feedLines]
  · rw [← Text.length_splitLines_eq_count_iff hlast]
    change (asLines (t.splitLines.filter p.finds)).count '\n' = t.count '\n' ↔ _
    rw [Text.count_asLines hfound, List.filter_eq_self.mpr hall]

-- The second line has a form feed in it, but the search finds nothing there.
theorem grep_feedLines_iff_elsewhere :
    let p : Pattern.Search := ⟨.char {} (.code 97 false), none, false⟩
    let s : Site := ⟨{ processCwd := "/work".toList, home := none }, "/work".toList⟩
    let t : Text := "ab\nc\x0cd\n".toList
    Filters s.world.charNames [['a']] p ∧ s.grep [['a']] (some t) = .ok (asLines (t.feedLines.filter p.finds)) := by
  intro p s t
  have hfilters : Filters s.world.charNames [['a']] p :=
    ⟨⟨{}, ['a'], []⟩, by decide +kernel, rfl, rfl, by decide +kernel⟩
  have hpieces : t.feedPieces = ["ab\n".toList, "c\x0cd\n".toList] := by decide +kernel
  obtain ⟨out, hout, hiff, -⟩ := grep_feedLines_iff (s := s) hfilters t
  refine ⟨hfilters, hout.trans (congrArg _ (hiff.mpr ?_))⟩
  rw [hpieces]
  refine List.forall_mem_cons.mpr ⟨fun hodd => ?_, List.forall_mem_singleton.mpr fun _ => ?_⟩
  · exact absurd (by decide +kernel) hodd
  · refine ⟨?_, ?_⟩ <;> decide +kernel

-- A form feed ends a line for a search and not for a count.
theorem grep_form_feed :
    let p : Pattern.Search := ⟨.char {} (.code 97 false), none, false⟩
    let s : Site := ⟨{ processCwd := "/work".toList, home := none }, "/work".toList⟩
    let t : Text := "a\x0cb\n".toList
    Grep.compile s.world.charNames {} ['a'] = .ok p ∧ s.grep [['a']] (some t) = .ok "a\n".toList ∧
    asLines (t.feedLines.filter p.finds) = t ∧
    s.grep [[]] (some t) = .ok "a\nb\n".toList ∧
    s.wc [] (some t) = .ok "1 2 4\n".toList ∧
    s.wc [] (some "a\nb\n".toList) = .ok "2 2 4\n".toList := by
  refine ⟨?_, ?_, ?_, ?_, ?_, ?_⟩ <;> decide +kernel

end Site

def Command.search (args : List Text) : Command :=
  .simple Builtin.grep.name args

open Site

section

variable {args args' : List Text} {p q : Pattern.Search}

lemma Command.step_search {w : World} (h : Filters w.charNames args p) (c : Context) (t o : Text) :
    (step w (search args) ⟨c, some t, o⟩).outcome = .ok ⟨c, some (sieved [p] t), o⟩ := by
  have hgrep := grep_of_filters (s := ⟨w, c.cwd⟩) h (some t)
  change (invoke w Builtin.grep.name args ⟨c, some t, o⟩).outcome = _
  rw [invoke_builtin (b := .grep) (by decide)]
  simp only [Builtin.run, hgrep]
  rfl

lemma Run.all_searches (w : World) (c : Context) (t o : Text) (f : List Text × Pattern.Search)
    (fs : List (List Text × Pattern.Search)) (h : ∀ g ∈ f :: fs, Filters w.charNames g.1 g.2) :
    (all (Command.step w) ((f :: fs).map fun g => .search g.1) ⟨c, some t, o⟩).fault = none ∧
    (all (Command.step w) ((f :: fs).map fun g => .search g.1) ⟨c, some t, o⟩).state =
      ⟨c, some (sieved ((f :: fs).map Prod.snd) t), o⟩ := by
  induction fs generalizing f t with
  | nil =>
    have hstep := Command.step_search (h f List.mem_cons_self) c t o
    rw [List.map_singleton, all_cons_ok hstep]
    exact ⟨rfl, rfl⟩
  | cons g gs ih =>
    obtain ⟨hf, hgs⟩ := List.forall_mem_cons.mp h
    obtain ⟨hfault, hstate⟩ := ih (sieved [f.2] t) g hgs
    rw [List.map_cons, all_cons_ok (Command.step_search hf c t o)]
    refine ⟨hfault, hstate.trans ?_⟩
    rw [sieved_sieved]
    rfl

lemma Site.grep_bind_grep {s : Site} (hp : Filters s.world.charNames args p)
    (hq : Filters s.world.charNames args' q) (t : Text) :
    (s.grep args (some t) >>= fun u => s.grep args' (some u)) = .ok (sieved [p, q] t) := by
  rw [grep_of_filters hp]
  change s.grep args' (some (sieved [p] t)) = _
  rw [grep_of_filters hq, Option.getD_some, sieved_sieved]
  rfl

lemma Run.pair_searches {w : World} (hp : Filters w.charNames args p)
    (hq : Filters w.charNames args' q) (c : Context) (t o : Text) :
    (all (Command.step w) [.search args, .search args'] ⟨c, some t, o⟩).fault = none ∧
    (all (Command.step w) [.search args, .search args'] ⟨c, some t, o⟩).state =
      ⟨c, some (sieved [p, q] t), o⟩ :=
  all_searches w c t o (args, p) [(args', q)] (by simp [hp, hq])

theorem grep_chain_conjunction {w : World} (hp : Filters w.charNames args p)
    (hq : Filters w.charNames args' q) (c : Context) (t o : Text) :
    let grep args u := Site.grep ⟨w, c.cwd⟩ args (some u)
    let run chain := Run.all (Command.step w) (chain.map Command.search) ⟨c, some t, o⟩
    let both := (t.splitLines.filter fun l => p.finds l && q.finds l).flatMap (· ++ ['\n'])
    (grep args t >>= grep args') = .ok both ∧ (grep args' t >>= grep args) = .ok both ∧
    (∃ u, grep args t = .ok u ∧ grep args u = .ok u) ∧
    (∀ chain ∈ [[args, args'], [args', args]],
      (run chain).fault = none ∧ (run chain).state = ⟨c, some both, o⟩) ∧
    (run [args, args]).fault = none ∧ (run [args, args]).state = (run [args]).state := by
  intro grep run both
  have hboth : sieved [p, q] t = both := by simp [sieved, asLines, both]
  have hback : sieved [q, p] t = both := by simp [sieved, asLines, both, Bool.and_comm]
  have htwice : sieved [p, p] t = sieved [p] t := by simp [sieved]
  refine ⟨?_, ?_, ⟨sieved [p] t, grep_of_filters hp _, ?_⟩, ?_, ?_, ?_⟩
  · rw [← hboth]
    exact grep_bind_grep hp hq t
  · rw [← hback]
    exact grep_bind_grep hq hp t
  · change Site.grep _ args (some (sieved [p] t)) = _
    rw [grep_of_filters hp, Option.getD_some, sieved_sieved]
    exact congrArg Except.ok htwice
  · refine List.forall_mem_cons.mpr ⟨?_, List.forall_mem_singleton.mpr ?_⟩
    · rw [← hboth]
      exact Run.pair_searches hp hq c t o
    · rw [← hback]
      exact Run.pair_searches hq hp c t o
  · exact (Run.pair_searches hp hp c t o).1
  · refine (Run.pair_searches hp hp c t o).2.trans ?_
    rw [htwice]
    exact (Run.all_searches w c t o (args, p) [] (by simp [hp])).2.symm

theorem grep_chain_conjunction_caseless :
    let p : Pattern.Search := ⟨.char { ignoreCase := true } (.code 97 false), none, false⟩
    let q : Pattern.Search := ⟨.char {} (.code 98 false), none, false⟩
    let s : Site := ⟨{ processCwd := "/work".toList, home := none }, "/work".toList⟩
    Filters s.world.charNames ["-i".toList, ['a']] p ∧ Filters s.world.charNames [['b']] q ∧
    (s.grep ["-i".toList, ['a']] (some "ab\r\nA\x0cxAb".toList) >>=
      fun u => s.grep [['b']] (some u)) = .ok "ab\nxAb\n".toList := by
  intro p q s
  have hp : Filters s.world.charNames ["-i".toList, ['a']] p :=
    ⟨⟨{ ignoreCase := true }, ['a'], []⟩, by decide +kernel, rfl, rfl, by decide +kernel⟩
  have hq : Filters s.world.charNames [['b']] q :=
    ⟨⟨{}, ['b'], []⟩, by decide +kernel, rfl, rfl, by decide +kernel⟩
  have hchain := grep_chain_conjunction hp hq ⟨s.cwd, {}⟩ "ab\r\nA\x0cxAb".toList []
  exact ⟨hp, hq, hchain.1.trans (by decide +kernel)⟩

end

end LineShell
