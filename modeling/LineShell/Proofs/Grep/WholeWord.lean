import LineShell.Grep.Selection
import LineShell.Proofs.Pattern.Enclosure
import LineShell.Proofs.Pattern.Match

namespace LineShell

namespace Pattern

namespace Search

open Reading

variable {known : Text → Option Char}

lemma ofText_of_error {ignoreCase : Bool} {t : Text} {e : Rejection}
    (h : pattern (initial known ignoreCase (Token.ofText t)) = .error e) :
    ofText known ignoreCase t = .error e := by
  have hrun : pattern.run (initial known ignoreCase (Token.ofText t)) = .error e := h
  unfold ofText
  change (pattern.run (initial known ignoreCase (Token.ofText t)) >>= _) = _
  rw [hrun]
  rfl

lemma ofText_eq_ok_iff_of_ok {ignoreCase : Bool} {t : Text} {n : Node} {r : Reader}
    (h : pattern (initial known ignoreCase (Token.ofText t)) = .ok (n, r)) {s : Search} :
    ofText known ignoreCase t = .ok s ↔ n.flaw? (r.flags.contains .template) = none ∧
      n.overreaches = false ∧ s = ⟨n, n.lead?, r.flags.contains .ascii⟩ := by
  have hrun : pattern.run (initial known ignoreCase (Token.ofText t)) = .ok (n, r) := h
  unfold ofText
  change (pattern.run (initial known ignoreCase (Token.ofText t)) >>= _) = _ ↔ _
  rw [hrun]
  simp only [bind, Except.bind]
  cases hflaw : n.flaw? (r.flags.contains .template) with
  | some cause =>
    constructor
    · intro hs
      cases hs
    · rintro ⟨hs, -⟩
      cases hs
  | none =>
    cases hreach : n.overreaches with
    | true =>
      constructor
      · intro hs
        cases hs
      · rintro ⟨-, hs, -⟩
        cases hs
    | false =>
      constructor
      · intro hs
        cases hs
        exact ⟨rfl, rfl, rfl⟩
      · rintro ⟨-, -, rfl⟩
        rfl

lemma finds_iff {s : Search} {t : Text} :
    s.finds t = true ↔ ∃ i ≤ t.length, s.admits t.toArray i = true ∧
      s.node.matchesAt t.toArray i = true := by
  simp only [finds, List.any_eq_true, List.mem_range, List.size_toArray, Nat.lt_succ_iff,
    Bool.and_eq_true]

end Search

namespace Node

def spansWord (n : Node) (text : Array Char) (i : Nat) : Bool :=
  Anchor.boundary.holds {} text i &&
    (n.run text (fun q => if Anchor.boundary.holds {} text q.pos then some q else none)
      ⟨i, []⟩).isSome

end Node

end Pattern

namespace Grep

open Pattern Reading

variable {known : Text → Option Char}

lemma contains_template (ignoreCase : Bool) :
    (initialFlags ignoreCase).contains .template = false := by
  cases ignoreCase <;> rfl

lemma contains_ascii (ignoreCase : Bool) :
    (initialFlags ignoreCase).contains .ascii = false := by
  cases ignoreCase <;> rfl

lemma ofText_wholeWord (p : Text) :
    Token.ofText (wholeWord p) = Token.wordOpening ++ Token.ofText (p ++ ")\\b".toList) :=
  rfl

def enclosed (ignoreCase : Bool) (body : List Node) : Search :=
  ⟨.ofList (boundary ignoreCase :: body ++ [boundary ignoreCase]), none, false⟩

lemma flaw?_enclosed {ignoreCase template : Bool} {body : List Node} :
    (enclosed ignoreCase body).node.flaw? template = none ↔
      (Node.ofList body).flaw? template = none := by
  simp [enclosed, Node.flaw?_ofList_eq_none_iff, boundary, Node.flaw?, or_imp, forall_and]

lemma overreaches_enclosed (ignoreCase : Bool) (body : List Node) :
    (enclosed ignoreCase body).node.overreaches = (Node.ofList body).overreaches := by
  simp [enclosed, Node.overreaches_ofList, boundary, Node.overreaches]

lemma lead?_enclosed (ignoreCase : Bool) (body : List Node) :
    (enclosed ignoreCase body).node.lead? = none := by
  cases body <;> rfl

lemma ofText_enclosed {ignoreCase : Bool} {p : Text} {s : Search}
    (h : Search.ofText known ignoreCase p = .ok s) (hopens : ¬ OpensWithFlags (Token.ofText p)) :
    ∃ body, s = ⟨.ofList body, (Node.ofList body).lead?, false⟩ ∧
      Search.ofText known ignoreCase (wholeWord p) = .ok (enclosed ignoreCase body) := by
  cases hp : pattern (initial known ignoreCase (Token.ofText p)) with
  | error e =>
    rw [Search.ofText_of_error hp] at h
    cases h
  | ok v =>
    obtain ⟨n, r⟩ := v
    have hflags := (flags_pattern hp).mpr hopens
    obtain ⟨body, r', rfl, hwhole, hflags'⟩ := pattern_enclosed hp hflags
    rw [← ofText_wholeWord] at hwhole
    rw [Search.ofText_eq_ok_iff_of_ok hp, hflags, contains_template, contains_ascii] at h
    obtain ⟨hflaw, hreach, rfl⟩ := h
    refine ⟨body, rfl, (Search.ofText_eq_ok_iff_of_ok hwhole).mpr ⟨?_, ?_, ?_⟩⟩
    · rw [hflags', contains_template]
      exact flaw?_enclosed.mpr hflaw
    · exact (overreaches_enclosed ignoreCase body).trans hreach
    · rw [hflags', contains_ascii]
      exact congrArg (Search.mk _ · false) (lead?_enclosed ignoreCase body).symm

lemma ofText_of_enclosed {ignoreCase : Bool} {p : Text} {w : Search}
    (h : Search.ofText known ignoreCase (wholeWord p) = .ok w) :
    (∃ s, Search.ofText known ignoreCase p = .ok s ∧ ¬ OpensWithFlags (Token.ofText p)) ∨
      ∃ pos, Search.ofText known ignoreCase p = .error (.flaw ⟨.unbalanced, some pos⟩) := by
  cases hwhole : pattern (initial known ignoreCase (Token.ofText (wholeWord p))) with
  | error e =>
    rw [Search.ofText_of_error hwhole] at h
    cases h
  | ok v =>
    obtain ⟨n, r⟩ := v
    rw [ofText_wholeWord] at hwhole
    rcases pattern_of_enclosed hwhole with ⟨body, r', hp, hflags⟩ | ⟨pos, hp⟩
    · left
      obtain ⟨body', r'', hbody, hwhole', hflags'⟩ := pattern_enclosed hp hflags
      rw [← ofText_wholeWord] at hwhole'
      obtain ⟨hflaw, hreach, -⟩ := (Search.ofText_eq_ok_iff_of_ok hwhole').mp h
      rw [hflags', contains_template] at hflaw
      have hreach : (enclosed ignoreCase body').node.overreaches = false := hreach
      rw [overreaches_enclosed] at hreach
      refine ⟨_, (Search.ofText_eq_ok_iff_of_ok hp).mpr ⟨?_, ?_, rfl⟩, (flags_pattern hp).mp hflags⟩
      · rw [hflags, contains_template, hbody]
        exact flaw?_enclosed.mp hflaw
      · rw [hbody]
        exact hreach
    · exact Or.inr ⟨pos, Search.ofText_of_error hp⟩

lemma matchesAt_enclosed (ignoreCase : Bool) (body : List Node) (text : Array Char) (i : Nat) :
    (enclosed ignoreCase body).node.matchesAt text i = (Node.ofList body).spansWord text i := by
  have hholds (j : Nat) : Anchor.boundary.holds (.ofFlags (initialFlags ignoreCase)) text j =
      Anchor.boundary.holds {} text j := by
    cases ignoreCase <;> rfl
  have hboundary (k : Next) : (boundary ignoreCase).run text k =
      fun q => if Anchor.boundary.holds {} text q.pos then k q else none := by
    funext q
    rw [boundary, Node.run, hholds]
  have hlast : (Node.ofList [boundary ignoreCase]).run text some =
      fun q => if Anchor.boundary.holds {} text q.pos then some q else none :=
    hboundary some
  unfold Node.matchesAt enclosed Node.spansWord
  rw [List.cons_append, Node.run_ofList_cons, Node.run_ofList_append, hlast, hboundary]
  dsimp only
  split
  · rename_i hi
    rw [hi, Bool.true_and]
  · rename_i hi
    rw [Bool.eq_false_iff.mpr hi]
    rfl

lemma finds_enclosed_iff {ignoreCase : Bool} {body : List Node} {line : Text} :
    (enclosed ignoreCase body).finds line = true ↔
      ∃ i ≤ line.length, (Node.ofList body).spansWord line.toArray i = true := by
  rw [Search.finds_iff]
  refine exists_congr fun i => and_congr_right fun _ => ?_
  rw [matchesAt_enclosed]
  exact and_iff_right rfl

/-- A character of the line is in the set that the pattern starts with, as the set was written, but
not as the search reads it when it looks for a place to start. -/
def Misreads (s : Search) (line : Text) : Prop :=
  ∃ test m, s.lead = some test ∧ s.node.leadMode? = some m ∧
    (m.ignoreCase = true ∨ m.ascii ≠ s.ascii) ∧ ∃ c ∈ line,
      test.passes m c.toNat = true ∧ test.passes { ascii := s.ascii } c.toNat = false

lemma matchesAt_of_spansWord {n : Node} {text : Array Char} {i : Nat}
    (h : n.spansWord text i = true) : n.matchesAt text i = true := by
  obtain ⟨-, h⟩ := Bool.and_eq_true_iff.mp h
  refine Node.run_within text n (fun q _ => ?_) _ h
  rfl

lemma finds_or_misreads {s : Search} (hlead : s.lead = s.node.lead?) {line : Text} {i : Nat}
    (hi : i ≤ line.length) (h : s.node.matchesAt line.toArray i = true) :
    s.finds line = true ∨ Misreads s line := by
  by_cases hadmits : s.admits line.toArray i = true
  · exact Or.inl (Search.finds_iff.mpr ⟨i, hi, hadmits, h⟩)
  · right
    cases htest : s.lead with
    | none => simp [Search.admits, htest] at hadmits
    | some test =>
      obtain ⟨m, c, hm, hc, hpasses⟩ := Node.passes_of_lead? line.toArray (hlead ▸ htest) h
      have hfails : test.passes { ascii := s.ascii } c.toNat = false := by
        simpa [Search.admits, htest, hc] using hadmits
      rw [List.getElem?_toArray] at hc
      refine ⟨test, m, htest, hm, ?_, c, List.mem_of_getElem? hc, hpasses, hfails⟩
      by_contra hmode
      obtain ⟨hcase, hascii⟩ : m.ignoreCase = false ∧ m.ascii = s.ascii := by simpa using hmode
      obtain ⟨negated, members, rfl⟩ := Node.set_of_lead? (hlead ▸ htest)
      rw [CharTest.passes_set_of_not_ignoreCase hcase, hascii, hfails] at hpasses
      cases hpasses

/-- What becomes of a search when only whole words count. A pattern that opens with flags cannot be
read any more, and one that closes a parenthesis it did not open may be read only now. Lines are
found where the pattern spans a word, and without the option they are found too, unless a character
is misread. -/
theorem compile_whole_word (known : Text → Option Char) (o : Options) (p : Text) :
    (∀ s, compile known { o with word := false } p = .ok s →
      ((∃ w, compile known { o with word := true } p = .ok w) ↔ ¬ OpensWithFlags (Token.ofText p))) ∧
    (∀ w, compile known { o with word := true } p = .ok w →
      (∃ s, compile known { o with word := false } p = .ok s) ∨
        ∃ pos, compile known { o with word := false } p = .error (.flaw ⟨.unbalanced, some pos⟩)) ∧
    ∀ s w, compile known { o with word := false } p = .ok s → compile known { o with word := true } p = .ok w →
      ∀ line,
        (w.finds line = true ↔ ∃ i ≤ line.length, s.node.spansWord line.toArray i = true) ∧
          (w.finds line = true → s.finds line = true ∨ Misreads s line) := by
  have hplain : compile known { o with word := false } p = Search.ofText known o.ignoreCase p := rfl
  have hwhole : compile known { o with word := true } p = Search.ofText known o.ignoreCase (wholeWord p) := rfl
  rw [hplain, hwhole]
  have hopens {s w : Search} (hs : Search.ofText known o.ignoreCase p = .ok s)
      (hw : Search.ofText known o.ignoreCase (wholeWord p) = .ok w) :
      ¬ OpensWithFlags (Token.ofText p) := by
    rcases ofText_of_enclosed hw with ⟨_, -, hopens⟩ | ⟨pos, hp⟩
    · exact hopens
    · rw [hp] at hs
      cases hs
  refine ⟨fun s hs => ⟨fun ⟨w, hw⟩ => hopens hs hw, fun h => ?_⟩, fun w hw => ?_, ?_⟩
  · obtain ⟨body, -, hw⟩ := ofText_enclosed hs h
    exact ⟨_, hw⟩
  · exact (ofText_of_enclosed hw).imp_left fun ⟨s, hs, _⟩ => ⟨s, hs⟩
  · intro s w hs hw line
    obtain ⟨body, rfl, hbody⟩ := ofText_enclosed hs (hopens hs hw)
    obtain rfl := Except.ok.inj (hbody.symm.trans hw)
    refine ⟨finds_enclosed_iff, fun h => ?_⟩
    obtain ⟨i, hi, hspans⟩ := finds_enclosed_iff.mp h
    exact finds_or_misreads rfl hi (matchesAt_of_spansWord hspans)

theorem compile_whole_word_letters :
    let noNames : Text → Option Char := fun _ => none
    let fo : Node := .seq (.char {} (.code 102 false)) (.rep .greedy 1 none (.char {} (.code 111 false)))
    compile noNames {} "fo+".toList = .ok ⟨fo, none, false⟩ ∧
      (∃ w, compile noNames { word := true } "fo+".toList = .ok w ∧ w.finds "a foo".toList = true ∧
        w.finds "a food".toList = false) ∧
      ∃ i ≤ 5, fo.spansWord "a foo".toList.toArray i = true := by
  intro noNames fo
  have hs : compile noNames {} "fo+".toList = .ok ⟨fo, none, false⟩ := by decide +kernel
  have hw : compile noNames { word := true } "fo+".toList =
      .ok (enclosed false [.char {} (.code 102 false),
        .rep .greedy 1 none (.char {} (.code 111 false))]) := by
    decide +kernel
  have hlines := (compile_whole_word noNames {} "fo+".toList).2.2 _ _ hs hw
  exact ⟨hs, ⟨_, hw, by decide +kernel, by decide +kernel⟩,
    (hlines "a foo".toList).1.mp (by decide +kernel)⟩

theorem whole_word_not_narrowing :
    let noNames : Text → Option Char := fun _ => none
    ((compile noNames {} "(?i)foo".toList).toOption.any (·.finds "FOO".toList) = true ∧
      compile noNames { word := true } "(?i)foo".toList = .error (.flaw ⟨.lateFlags, some 5⟩)) ∧
    (compile noNames {} "a)|(?:b".toList = .error (.flaw ⟨.unbalanced, some 1⟩) ∧
      (compile noNames { word := true } "a)|(?:b".toList).toOption.any (·.finds "ab".toList) = true) ∧
    ((compile noNames {} "(?a:\\W)".toList).toOption.any (·.finds "é".toList) = false ∧
      (compile noNames { word := true } "(?a:\\W)".toList).toOption.any (·.finds "é".toList) = true) := by
  decide +kernel

end Grep

end LineShell
