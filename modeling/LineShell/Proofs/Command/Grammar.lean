import LineShell.Command.Parse
import Mathlib.Data.List.TakeWhile

/-! The grammar of a line, apart from how it is parsed: blanks do not count, separators cut a line
into segments and pipes cut a segment into pieces, of which each is a command. -/

namespace LineShell

namespace Command

structure Binds (word name value : Text) : Prop where
  split : word = name ++ '=' :: value
  start : name.head?.any (fun c => Text.isWordChar c && !Text.isDecimal c) = true
  chars : ∀ c ∈ name, Text.isWordChar c

lemma assignment?_eq_some_iff {word name value : Text} :
    assignment? word = some (name, value) ↔ Binds word name value := by
  have heq : Text.isWordChar '=' = false := by decide +kernel
  constructor
  · intro h
    have hsplit := List.takeWhile_append_dropWhile (p := Text.isWordChar) (l := word)
    have hchars : ∀ c ∈ word.takeWhile Text.isWordChar, Text.isWordChar c :=
      fun _ hc => List.mem_takeWhile_imp hc
    unfold assignment? at h
    dsimp only at h
    split at h
    · rename_i c v hhead hdrop
      split at h
      · simp at h
      · rename_i hdec
        obtain ⟨rfl, rfl⟩ := Prod.mk.inj (Option.some.inj h)
        refine ⟨by rw [← hdrop, hsplit], ?_, hchars⟩
        have hc := hchars c (List.mem_of_head? hhead)
        simp [hhead, hc, hdec]
    · simp at h
  · rintro ⟨rfl, hstart, hchars⟩
    obtain ⟨c, name, rfl⟩ := List.exists_cons_of_ne_nil (l := name) (by rintro rfl; simp at hstart)
    have htake : ((c :: name) ++ '=' :: value).takeWhile Text.isWordChar = c :: name := by
      rw [List.takeWhile_append_of_pos hchars, List.takeWhile_cons_of_neg (by simp [heq]),
        List.append_nil]
    have hdrop : ((c :: name) ++ '=' :: value).dropWhile Text.isWordChar = '=' :: value := by
      rw [List.dropWhile_append_of_pos hchars, List.dropWhile_cons_of_neg (by simp [heq])]
    have hdec : Text.isDecimal c = false := by simp_all
    simp only [assignment?, htake, hdrop, List.head?_cons, hdec, Bool.false_eq_true, ↓reduceIte]

lemma assignment?_eq_none_iff {word : Text} :
    assignment? word = none ↔ ∀ name value, ¬ Binds word name value := by
  rw [Option.eq_none_iff_forall_ne_some]
  simp only [Prod.forall, ne_eq, assignment?_eq_some_iff]

end Command

namespace Grammar

def unspaced (ls : List Lexeme) : List Lexeme :=
  ls.filter (·.kind ≠ .space)

@[simp] lemma unspaced_nil : unspaced [] = [] := rfl

@[simp] lemma unspaced_append (ls ms : List Lexeme) :
    unspaced (ls ++ ms) = unspaced ls ++ unspaced ms :=
  List.filter_append _ _

lemma unspaced_cons_space {l : Lexeme} (h : l.kind = .space) (ls : List Lexeme) :
    unspaced (l :: ls) = unspaced ls := by
  simp [unspaced, h]

lemma unspaced_cons {l : Lexeme} (h : l.kind ≠ .space) (ls : List Lexeme) :
    unspaced (l :: ls) = l :: unspaced ls := by
  simp [unspaced, h]

def segments (ls : List Lexeme) : List (List Lexeme) :=
  (unspaced ls).splitOnP (·.kind = .separator)

def pieces (s : List Lexeme) : List (List Lexeme) :=
  s.splitOnP (·.kind = .pipe)

def command (p : List Lexeme) : Command :=
  match p.map (·.text) with
  | [] => .flush
  | w :: ws =>
    match Command.assignment? w with
    | some (name, value) => .assign name value
    | none => .simple w ws

lemma command_of_binds {l : Lexeme} (ks : List Lexeme) {name value : Text}
    (h : Command.Binds l.text name value) : command (l :: ks) = .assign name value := by
  simp [command, Command.assignment?_eq_some_iff.mpr h]

lemma command_of_not_binds {l : Lexeme} (ks : List Lexeme)
    (h : ∀ name value, ¬ Command.Binds l.text name value) :
    command (l :: ks) = .simple l.text (ks.map (·.text)) := by
  simp [command, Command.assignment?_eq_none_iff.mpr h]

def chain (s : List Lexeme) : List Command :=
  if s = [] then [] else (pieces s).map command

def flatten : List (List Lexeme) → List Command
  | [] => []
  | [s] => chain s
  | s :: t :: ss => (if s = [] then [] else chain s ++ [.flush]) ++ flatten (t :: ss)

structure Piece (p : List Lexeme) : Prop where
  nonempty : p ≠ []
  alone : ∀ l ls, p = l :: ls → (∃ name value, Command.Binds l.text name value) → ls = []

end Grammar

structure Grammatical (ls : List Lexeme) : Prop where
  kinds : ∀ l ∈ ls, l.kind = .plain ∨ l.kind = .space ∨ l.kind = .pipe ∨ l.kind = .separator
  segments : ∀ s ∈ Grammar.segments ls, s = [] ∨ ∀ p ∈ Grammar.pieces s, Grammar.Piece p

namespace Grammar

lemma pieces_of_plain {s : List Lexeme} (h : ∀ l ∈ s, l.kind = .plain) : pieces s = [s] :=
  List.splitOnP_eq_singleton fun l hl => by simp [h l hl]

lemma pieces_append_pipe {s t : List Lexeme} {m : Lexeme} (h : ∀ l ∈ s, l.kind = .plain)
    (hm : m.kind = .pipe) : pieces (s ++ m :: t) = s :: pieces t :=
  List.splitOnP_append_cons_of_forall_mem (fun l hl => by simp [h l hl]) m (by simp [hm]) t

lemma plain_of_run {ps : List Lexeme} (h : ∀ l ∈ ps, l.kind = .plain ∨ l.kind = .space) :
    ∀ l ∈ unspaced ps, l.kind = .plain := by
  intro l hl
  obtain ⟨hmem, hne⟩ := List.mem_filter.mp hl
  exact (h l hmem).resolve_right (by simpa using hne)

lemma segments_of_run {ps : List Lexeme} (h : ∀ l ∈ ps, l.kind = .plain ∨ l.kind = .space) :
    segments ps = [unspaced ps] :=
  List.splitOnP_eq_singleton fun l hl => by simp [plain_of_run h l hl]

lemma segments_append_separator (ls rest : List Lexeme) {m : Lexeme} (hm : m.kind = .separator) :
    segments (ls ++ m :: rest) = segments ls ++ segments rest := by
  rw [segments, unspaced_append, unspaced_cons (by simp [hm]),
    List.splitOnP_append_cons _ _ (by simp [hm])]
  rfl

lemma segments_append_pipe {ps rest s : List Lexeme} {ss : List (List Lexeme)} {m : Lexeme}
    (h : ∀ l ∈ ps, l.kind = .plain ∨ l.kind = .space) (hm : m.kind = .pipe)
    (hs : segments rest = s :: ss) :
    segments (ps ++ m :: rest) = (unspaced ps ++ m :: s) :: ss := by
  have hplain := plain_of_run h
  rw [segments, unspaced_append, unspaced_cons (by simp [hm])]
  generalize unspaced ps = qs at hplain
  induction qs with
  | nil =>
    rw [List.nil_append, List.splitOnP_cons_eq_if_modifyHead, if_neg (by simp [hm])]
    change (segments rest).modifyHead _ = _
    rw [hs]
    rfl
  | cons q qs ih =>
    have hq : q.kind = .plain := hplain q (by simp)
    rw [List.cons_append, List.splitOnP_cons_eq_if_modifyHead, if_neg (by simp [hq]),
      ih fun l hl => hplain l (by simp [hl])]
    rfl

/-- What is asked of the segment that a parse stands in: behind a pipe it may not be empty. -/
def Segment (afterPipe : Bool) (s : List Lexeme) : Prop :=
  (afterPipe = false ∧ s = []) ∨ ∀ p ∈ pieces s, Piece p

structure From (afterPipe : Bool) (ls : List Lexeme) : Prop where
  kinds : ∀ l ∈ ls, l.kind = .plain ∨ l.kind = .space ∨ l.kind = .pipe ∨ l.kind = .separator
  segments : ∀ s ss, segments ls = s :: ss → Segment afterPipe s ∧ ∀ t ∈ ss, Segment false t

lemma exists_segments (ls : List Lexeme) : ∃ s ss, segments ls = s :: ss :=
  List.exists_cons_of_ne_nil (List.splitOnP_ne_nil _ _)

lemma from_false_iff (ls : List Lexeme) : From false ls ↔ Grammatical ls := by
  obtain ⟨s, ss, hs⟩ := exists_segments ls
  have hsegment : ∀ t, Segment false t ↔ t = [] ∨ ∀ p ∈ pieces t, Piece p := by simp [Segment]
  constructor
  · rintro ⟨hkinds, hsegs⟩
    obtain ⟨hfirst, hrest⟩ := hsegs s ss hs
    refine ⟨hkinds, fun t ht => (hsegment t).mp ?_⟩
    rw [hs] at ht
    rcases List.mem_cons.mp ht with rfl | ht
    · exact hfirst
    · exact hrest t ht
  · rintro ⟨hkinds, hsegs⟩
    refine ⟨hkinds, fun t ts ht => ⟨(hsegment t).mpr (hsegs t ?_), fun u hu =>
      (hsegment u).mpr (hsegs u ?_)⟩⟩
    · simp [ht]
    · simp [ht, hu]

section

variable {ps rest : List Lexeme} {m : Lexeme} {afterPipe : Bool}

lemma segment_run (h : ∀ l ∈ ps, l.kind = .plain ∨ l.kind = .space) :
    Segment afterPipe (unspaced ps) ↔
      (afterPipe = false ∧ unspaced ps = []) ∨ Piece (unspaced ps) := by
  rw [Segment, pieces_of_plain (plain_of_run h)]
  simp

lemma from_run (h : ∀ l ∈ ps, l.kind = .plain ∨ l.kind = .space) :
    From afterPipe ps ↔ Segment afterPipe (unspaced ps) := by
  constructor
  · rintro ⟨-, hsegs⟩
    exact (hsegs _ _ (segments_of_run h)).1
  · intro hs
    refine ⟨fun l hl => (h l hl).imp_right Or.inl, fun t ts ht => ?_⟩
    obtain ⟨rfl, rfl⟩ := List.cons.inj ((segments_of_run h).symm.trans ht)
    exact ⟨hs, by simp⟩

lemma from_pipe (h : ∀ l ∈ ps, l.kind = .plain ∨ l.kind = .space) (hm : m.kind = .pipe) :
    From afterPipe (ps ++ m :: rest) ↔ Piece (unspaced ps) ∧ From true rest := by
  obtain ⟨s, ss, hs⟩ := exists_segments rest
  have hseg := segments_append_pipe h hm hs
  have hpieces := pieces_append_pipe (t := s) (plain_of_run h) hm
  constructor
  · rintro ⟨hkinds, hsegs⟩
    obtain ⟨hfirst, hrest⟩ := hsegs _ _ hseg
    have hall := hfirst.resolve_left (by simp)
    rw [hpieces] at hall
    refine ⟨hall _ (by simp), fun l hl => hkinds l (by simp [hl]), fun t ts ht => ?_⟩
    obtain ⟨rfl, rfl⟩ := List.cons.inj (hs.symm.trans ht)
    exact ⟨Or.inr fun p hp => hall p (by simp [hp]), hrest⟩
  · rintro ⟨hpiece, hkinds, hsegs⟩
    obtain ⟨hfirst, hrest⟩ := hsegs s ss hs
    refine ⟨?_, fun t ts ht => ?_⟩
    · intro l hl
      rcases List.mem_append.mp hl with hl | hl
      · exact (h l hl).imp_right Or.inl
      · rcases List.mem_cons.mp hl with rfl | hl
        · simp [hm]
        · exact hkinds l hl
    · obtain ⟨rfl, rfl⟩ := List.cons.inj (hseg.symm.trans ht)
      refine ⟨Or.inr ?_, hrest⟩
      rw [hpieces]
      exact List.forall_mem_cons.mpr ⟨hpiece, hfirst.resolve_left (by simp)⟩

lemma from_separator (h : ∀ l ∈ ps, l.kind = .plain ∨ l.kind = .space) (hm : m.kind = .separator) :
    From afterPipe (ps ++ m :: rest) ↔
      Segment afterPipe (unspaced ps) ∧ From false rest := by
  obtain ⟨s, ss, hs⟩ := exists_segments rest
  have hseg : segments (ps ++ m :: rest) = unspaced ps :: s :: ss := by
    rw [segments_append_separator ps rest hm, segments_of_run h, hs, List.singleton_append]
  constructor
  · rintro ⟨hkinds, hsegs⟩
    obtain ⟨hfirst, hrest⟩ := hsegs _ _ hseg
    obtain ⟨hnext, hmore⟩ := List.forall_mem_cons.mp hrest
    refine ⟨hfirst, fun l hl => hkinds l (by simp [hl]), fun t ts ht => ?_⟩
    obtain ⟨rfl, rfl⟩ := List.cons.inj (hs.symm.trans ht)
    exact ⟨hnext, hmore⟩
  · rintro ⟨hfirst, hkinds, hsegs⟩
    refine ⟨?_, fun t ts ht => ?_⟩
    · intro l hl
      rcases List.mem_append.mp hl with hl | hl
      · exact (h l hl).imp_right Or.inl
      · rcases List.mem_cons.mp hl with rfl | hl
        · simp [hm]
        · exact hkinds l hl
    · obtain ⟨rfl, rfl⟩ := List.cons.inj (hseg.symm.trans ht)
      exact ⟨hfirst, List.forall_mem_cons.mpr (hsegs s ss hs)⟩

lemma flatten_pipe (h : ∀ l ∈ ps, l.kind = .plain ∨ l.kind = .space) (hm : m.kind = .pipe)
    (hrest : From true rest) :
    flatten (segments (ps ++ m :: rest)) =
      command (unspaced ps) :: flatten (segments rest) := by
  obtain ⟨s, ss, hs⟩ := exists_segments rest
  have hall := (hrest.segments s ss hs).1.resolve_left (by simp)
  have hne : s ≠ [] := by
    rintro rfl
    exact (hall [] (by simp [pieces])).nonempty rfl
  rw [segments_append_pipe h hm hs, hs]
  have hchain : chain (unspaced ps ++ m :: s) = command (unspaced ps) :: chain s := by
    rw [chain, if_neg (by simp), pieces_append_pipe (plain_of_run h) hm, chain, if_neg hne,
      List.map_cons]
  cases ss with
  | nil => exact hchain
  | cons t ts => simp only [flatten, hchain, hne, List.append_eq_nil_iff, reduceCtorEq, and_false,
      ↓reduceIte, List.cons_append]

lemma flatten_separator (h : ∀ l ∈ ps, l.kind = .plain ∨ l.kind = .space)
    (hm : m.kind = .separator) :
    flatten (segments (ps ++ m :: rest)) =
      (if unspaced ps = [] then [] else [command (unspaced ps), .flush]) ++
        flatten (segments rest) := by
  obtain ⟨s, ss, hs⟩ := exists_segments rest
  rw [segments_append_separator ps rest hm, segments_of_run h, hs, List.singleton_append, flatten,
    chain, pieces_of_plain (plain_of_run h)]
  split_ifs <;> rfl

end

end Grammar

end LineShell
