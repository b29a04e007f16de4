import LineShell.Path
import Mathlib.Data.List.Flatten
import Mathlib.Data.List.Induction
import Mathlib.Tactic.Lemma

/-! Absolute paths piece by piece, and their normal form: one or two slashes and names with a slash
between them, none of which is a dot or two dots. -/

namespace LineShell

namespace Text

lemma cutAt_ne_nil (sep : Char) (t : Text) : t.cutAt sep ≠ [] := by
  cases t with
  | nil => simp [cutAt]
  | cons c cs =>
    unfold cutAt
    split
    · simp
    · split <;> simp

lemma cutAt_cons_self (sep : Char) (t : Text) : cutAt sep (sep :: t) = [] :: t.cutAt sep := by
  simp [cutAt]

lemma cutAt_cons_of_ne {sep c : Char} (h : c ≠ sep) {t piece : Text} {more : List Text}
    (ht : t.cutAt sep = piece :: more) : cutAt sep (c :: t) = (c :: piece) :: more := by
  simp [cutAt, h, ht]

lemma cutAt_append_sep (sep : Char) (t u : Text) :
    cutAt sep (t ++ sep :: u) = t.cutAt sep ++ u.cutAt sep := by
  induction t with
  | nil => simp [cutAt]
  | cons c t ih =>
    by_cases hc : c = sep
    · subst hc
      rw [List.cons_append, cutAt_cons_self, cutAt_cons_self, ih, List.cons_append]
    · obtain ⟨piece, more, ht⟩ := List.exists_cons_of_ne_nil (cutAt_ne_nil sep t)
      rw [ht, List.cons_append] at ih
      rw [List.cons_append, cutAt_cons_of_ne hc ih, cutAt_cons_of_ne hc ht, List.cons_append]

lemma cutAt_of_not_mem {sep : Char} {t : Text} (h : sep ∉ t) : t.cutAt sep = [t] := by
  induction t with
  | nil => rfl
  | cons c t ih =>
    obtain ⟨hc, ht⟩ : sep ≠ c ∧ sep ∉ t := by simpa using h
    rw [cutAt_cons_of_ne (Ne.symm hc) (ih ht)]

lemma not_mem_of_mem_cutAt {sep : Char} {t piece : Text} (h : piece ∈ t.cutAt sep) :
    sep ∉ piece := by
  induction t generalizing piece with
  | nil => simp_all [cutAt]
  | cons c t ih =>
    by_cases hc : c = sep
    · subst hc
      rw [cutAt_cons_self] at h
      rcases List.mem_cons.mp h with rfl | h
      · exact List.not_mem_nil
      · exact ih h
    · obtain ⟨first, more, ht⟩ := List.exists_cons_of_ne_nil (cutAt_ne_nil sep t)
      rw [cutAt_cons_of_ne hc ht] at h
      rw [ht] at ih
      rcases List.mem_cons.mp h with rfl | h
      · simpa [Ne.symm hc] using ih List.mem_cons_self
      · exact ih (List.mem_cons_of_mem _ h)

end Text

namespace Path

open scoped List

def spell (ps : List Text) : Text :=
  ps.flatMap ('/' :: ·)

lemma spell_append (ps qs : List Text) : spell (ps ++ qs) = spell ps ++ spell qs :=
  List.flatMap_append

lemma pieces_slash (t : Text) : pieces ('/' :: t) = [] :: pieces t :=
  Text.cutAt_cons_self '/' t

lemma pieces_ne_nil (t : Text) : pieces t ≠ [] :=
  Text.cutAt_ne_nil '/' t

lemma spell_pieces (t : Text) : spell (pieces t) = '/' :: t := by
  induction t with
  | nil => rfl
  | cons c t ih =>
    by_cases hc : c = '/'
    · subst hc
      rw [pieces_slash]
      exact congrArg _ ih
    · obtain ⟨piece, more, ht⟩ := List.exists_cons_of_ne_nil (pieces_ne_nil t)
      rw [ht] at ih
      rw [pieces, Text.cutAt_cons_of_ne hc ht]
      simpa [spell] using ih

lemma pieces_spell {ps : List Text} (h : ∀ p ∈ ps, '/' ∉ p) : pieces (spell ps) = [] :: ps := by
  induction ps using List.reverseRecOn with
  | nil => rfl
  | append_singleton ps p ih =>
    have hp : pieces p = [p] := Text.cutAt_of_not_mem (h p (by simp))
    have hps : pieces (spell ps) = [] :: ps := ih fun q hq => h q (by simp [hq])
    have hlast : spell [p] = '/' :: p := by simp [spell]
    rw [spell_append, hlast, pieces, Text.cutAt_append_sep, ← pieces, ← pieces, hps, hp,
      List.cons_append]

def Vanishes (piece : Text) : Prop :=
  piece = [] ∨ piece = ['.']

instance : DecidablePred Vanishes :=
  fun _ => inferInstanceAs (Decidable (_ ∨ _))

structure Proper (piece : Text) : Prop where
  ne_nil : piece ≠ []
  ne_dot : piece ≠ ['.']
  ne_dots : piece ≠ ['.', '.']
  not_mem : '/' ∉ piece

def Normal (path : Text) : Prop :=
  ∃ names, (∀ n ∈ names, Proper n) ∧
    (path = '/' :: Text.joinWith ['/'] names ∨ path = '/' :: '/' :: Text.joinWith ['/'] names)

def simplify (ps : List Text) : List Text :=
  (ps.foldl (place true) []).reverse

section

variable {names ps : List Text} {piece : Text}

lemma place_vanishing (h : Vanishes piece) : place true names piece = names := by
  simp [place, show piece = [] ∨ piece = ['.'] from h]

lemma place_dots (h : ∀ n ∈ names, Proper n) : place true names ['.', '.'] = names.tail := by
  cases names with
  | nil => rfl
  | cons n names => simp [place, (h n List.mem_cons_self).ne_dots]

lemma place_proper (h : Proper piece) : place true names piece = piece :: names := by
  simp [place, h.ne_nil, h.ne_dot, h.ne_dots]

lemma piece_cases (h : '/' ∉ piece) : Vanishes piece ∨ piece = ['.', '.'] ∨ Proper piece := by
  by_cases hvanish : Vanishes piece
  · exact Or.inl hvanish
  · by_cases hdots : piece = ['.', '.']
    · exact Or.inr (Or.inl hdots)
    · obtain ⟨hnil, hdot⟩ := not_or.mp hvanish
      exact Or.inr (Or.inr ⟨hnil, hdot, hdots, h⟩)

lemma Proper.not_vanishes (h : Proper piece) : ¬ Vanishes piece :=
  not_or.mpr ⟨h.ne_nil, h.ne_dot⟩

lemma proper_place (hnames : ∀ n ∈ names, Proper n) (hpiece : '/' ∉ piece) :
    ∀ n ∈ place true names piece, Proper n := by
  rcases piece_cases hpiece with hvanish | rfl | hproper
  · rwa [place_vanishing hvanish]
  · rw [place_dots hnames]
    exact fun n hn => hnames n (List.mem_of_mem_tail hn)
  · rw [place_proper hproper]
    exact List.forall_mem_cons.mpr ⟨hproper, hnames⟩

lemma reverse_place_sublist (hnames : ∀ n ∈ names, Proper n) (hpiece : '/' ∉ piece) :
    (place true names piece).reverse <+ names.reverse ++ [piece] := by
  rcases piece_cases hpiece with hvanish | rfl | hproper
  · rw [place_vanishing hvanish]
    exact List.sublist_append_left ..
  · rw [place_dots hnames]
    exact (List.tail_sublist names).reverse.trans (List.sublist_append_left ..)
  · have hplace : (place true names piece).reverse = names.reverse ++ [piece] := by
      rw [place_proper hproper, List.reverse_cons]
    exact hplace ▸ List.Sublist.refl _

lemma foldl_place (hnames : ∀ n ∈ names, Proper n) (hps : ∀ p ∈ ps, '/' ∉ p) :
    (∀ n ∈ ps.foldl (place true) names, Proper n) ∧
      (ps.foldl (place true) names).reverse <+ names.reverse ++ ps := by
  induction ps generalizing names with
  | nil => exact ⟨hnames, by simp⟩
  | cons p ps ih =>
    obtain ⟨hp, hps⟩ := List.forall_mem_cons.mp hps
    obtain ⟨hproper, hsub⟩ := ih (proper_place hnames hp) hps
    refine ⟨hproper, hsub.trans ?_⟩
    rw [List.append_cons]
    exact (reverse_place_sublist hnames hp).append_right ps

lemma foldl_place_proper (hps : ∀ p ∈ ps, Proper p) :
    ps.foldl (place true) names = ps.reverse ++ names := by
  induction ps generalizing names with
  | nil => rfl
  | cons p ps ih =>
    obtain ⟨hp, hps⟩ := List.forall_mem_cons.mp hps
    rw [List.foldl_cons, place_proper hp, ih hps, List.reverse_cons, List.append_assoc]
    rfl

lemma foldl_place_of_not_mem (hps : ∀ p ∈ ps, '/' ∉ p) (hdots : ['.', '.'] ∉ ps) :
    ps.foldl (place true) names = (ps.filter (¬ Vanishes ·)).reverse ++ names := by
  induction ps generalizing names with
  | nil => rfl
  | cons p ps ih =>
    obtain ⟨hp, hps⟩ := List.forall_mem_cons.mp hps
    obtain ⟨hne, hdots⟩ : ['.', '.'] ≠ p ∧ ['.', '.'] ∉ ps := by simpa using hdots
    rw [List.foldl_cons, ih hps hdots]
    rcases piece_cases hp with hvanish | rfl | hproper
    · rw [place_vanishing hvanish, List.filter_cons_of_neg (by simpa using hvanish)]
    · exact (hne rfl).elim
    · rw [place_proper hproper, List.filter_cons_of_pos (by simpa using hproper.not_vanishes)]
      simp

end

lemma simplify_proper {ps : List Text} (h : ∀ p ∈ ps, '/' ∉ p) : ∀ n ∈ simplify ps, Proper n :=
  fun n hn => (foldl_place (by simp) h).1 n (List.mem_reverse.mp hn)

lemma simplify_sublist {ps : List Text} (h : ∀ p ∈ ps, '/' ∉ p) : simplify ps <+ ps := by
  have hnone : ∀ n ∈ ([] : List Text), Proper n := by simp
  exact (foldl_place hnone h).2

lemma simplify_blank (ps : List Text) : simplify ([] :: ps) = simplify ps := by
  rw [simplify, List.foldl_cons, place_vanishing (Or.inl rfl), ← simplify]

lemma simplify_of_proper {ps : List Text} (h : ∀ p ∈ ps, Proper p) : simplify ps = ps := by
  rw [simplify, foldl_place_proper h, List.append_nil, List.reverse_reverse]

lemma simplify_cases {ps : List Text} (h : ∀ p ∈ ps, '/' ∉ p) :
    simplify ps = ps.filter (¬ Vanishes ·) ∨
      ∃ pre post, ps = pre ++ ['.', '.'] :: post ∧
        simplify ps = (simplify pre).dropLast ++ post.filter (¬ Vanishes ·) := by
  by_cases hdots : ['.', '.'] ∈ ps
  · obtain ⟨post, pre, hrev, hpost⟩ := List.eq_append_cons_of_mem (List.mem_reverse.mpr hdots)
    obtain rfl : ps = pre.reverse ++ ['.', '.'] :: post.reverse := by
      rw [← List.reverse_reverse ps, hrev]
      simp
    refine Or.inr ⟨pre.reverse, post.reverse, rfl, ?_⟩
    have hpre : ∀ n ∈ pre.reverse.foldl (place true) [], Proper n :=
      (foldl_place (by simp) fun p hp => h p (List.mem_append_left _ hp)).1
    rw [simplify, List.foldl_append, List.foldl_cons, place_dots hpre,
      foldl_place_of_not_mem (fun p hp => h p (by simp_all)) (by simpa using hpost), simplify,
      List.reverse_append, List.reverse_reverse, List.dropLast_reverse]
  · left
    rw [simplify, foldl_place_of_not_mem h hdots, List.append_nil, List.reverse_reverse]

lemma not_mem_of_mem_pieces {t piece : Text} (h : piece ∈ pieces t) : '/' ∉ piece :=
  Text.not_mem_of_mem_cutAt h

lemma root_slash (t : Text) :
    root ('/' :: t) = ['/'] ∨ ∃ u, t = '/' :: u ∧ root ('/' :: t) = ['/', '/'] := by
  cases t with
  | nil => exact Or.inl rfl
  | cons c u =>
    by_cases hc : c = '/'
    · subst hc
      cases hu : u.takeWhile (· = '/') with
      | nil => exact Or.inr ⟨u, rfl, by simp [root, hu]⟩
      | cons d ds => exact Or.inl (by simp [root, hu])
    · exact Or.inl (by simp [root, hc])

lemma normalize_slash (t : Text) :
    normalize ('/' :: t) = root ('/' :: t) ++ Text.joinWith ['/'] (simplify (pieces t)) := by
  have hroot : root ('/' :: t) ≠ [] := by
    rcases root_slash t with h | ⟨u, -, h⟩ <;> simp [h]
  have hlead : (!(root ('/' :: t)).isEmpty) = true := by simpa using hroot
  unfold normalize
  dsimp only
  rw [hlead, pieces_slash, List.foldl_cons, place_vanishing (Or.inl rfl), ← simplify]
  split
  · simp_all
  · rfl

lemma slash_joinWith {ns : List Text} (h : ns ≠ []) :
    '/' :: Text.joinWith ['/'] ns = spell ns := by
  induction ns with
  | nil => exact (h rfl).elim
  | cons n ns ih =>
    cases ns with
    | nil => simp [Text.joinWith, spell]
    | cons m ms => simpa [Text.joinWith, spell] using ih (by simp)

lemma isAbsolute_iff {path : Text} : isAbsolute path = true ↔ ∃ t, path = '/' :: t := by
  simp [isAbsolute, List.head?_eq_some_iff]

lemma normal_normalize (t : Text) : Normal (normalize ('/' :: t)) := by
  refine ⟨simplify (pieces t), simplify_proper fun _ => not_mem_of_mem_pieces, ?_⟩
  rw [normalize_slash]
  rcases root_slash t with hroot | ⟨u, -, hroot⟩
  · exact Or.inl (by rw [hroot]; rfl)
  · exact Or.inr (by rw [hroot]; rfl)

lemma normalize_sublist (t : Text) : normalize ('/' :: t) <+ '/' :: t := by
  have hjoin : ∀ {ns : List Text} {u : Text}, ns <+ pieces u →
      '/' :: Text.joinWith ['/'] ns <+ '/' :: u := by
    intro ns u h
    by_cases hns : ns = []
    · subst hns
      exact List.cons_sublist_cons.mpr (List.nil_sublist u)
    · rw [slash_joinWith hns, ← spell_pieces]
      exact h.flatMap _
  rw [normalize_slash]
  rcases root_slash t with hroot | ⟨u, rfl, hroot⟩
  · rw [hroot]
    exact hjoin (simplify_sublist fun _ => not_mem_of_mem_pieces)
  · rw [hroot, pieces_slash, simplify_blank]
    exact List.cons_sublist_cons.mpr (hjoin (simplify_sublist fun _ => not_mem_of_mem_pieces))

section

variable {names : List Text} (h : ∀ n ∈ names, Proper n)

include h

lemma pieces_slash_joinWith :
    ∃ k, pieces ('/' :: Text.joinWith ['/'] names) = [] :: (List.replicate k [] ++ names) := by
  by_cases hnames : names = []
  · subst hnames
    exact ⟨1, rfl⟩
  · rw [slash_joinWith hnames, pieces_spell fun n hn => (h n hn).not_mem]
    exact ⟨0, rfl⟩

lemma simplify_replicate (k : Nat) : simplify (List.replicate k [] ++ names) = names := by
  induction k with
  | zero => exact simplify_of_proper h
  | succ k ih => rw [List.replicate_succ, List.cons_append, simplify_blank, ih]

lemma head_joinWith : (Text.joinWith ['/'] names).head? ≠ some '/' := by
  cases names with
  | nil => simp [Text.joinWith]
  | cons n ns =>
    have hn := h n List.mem_cons_self
    obtain ⟨c, cs, rfl⟩ := List.exists_cons_of_ne_nil hn.ne_nil
    have hc : c ≠ '/' := by
      rintro rfl
      exact hn.not_mem List.mem_cons_self
    cases ns <;> simpa [Text.joinWith] using hc

lemma simplify_pieces_joinWith : simplify (pieces (Text.joinWith ['/'] names)) = names := by
  obtain ⟨k, hk⟩ := pieces_slash_joinWith h
  rw [pieces_slash] at hk
  rw [(List.cons.inj hk).2, simplify_replicate h]

end

lemma normalize_of_normal {path : Text} (h : Normal path) : normalize path = path := by
  obtain ⟨names, hnames, rfl | rfl⟩ := h
  · rw [normalize_slash, simplify_pieces_joinWith hnames]
    rcases root_slash (Text.joinWith ['/'] names) with hroot | ⟨u, hu, -⟩
    · rw [hroot]
      rfl
    · exact (head_joinWith hnames (by rw [hu]; rfl)).elim
  · have hroot : root ('/' :: '/' :: Text.joinWith ['/'] names) = ['/', '/'] := by
      have hhead := head_joinWith hnames
      cases hj : Text.joinWith ['/'] names with
      | nil => rfl
      | cons c cs =>
        rw [hj] at hhead
        have hc : c ≠ '/' := by simpa using hhead
        simp [root, hc]
    rw [normalize_slash, pieces_slash, simplify_blank, simplify_pieces_joinWith hnames, hroot]
    rfl

lemma pieces_normalize (t : Text) :
    ∃ k, pieces (normalize ('/' :: t)) = [] :: (List.replicate k [] ++ simplify (pieces t)) := by
  have hproper : ∀ n ∈ simplify (pieces t), Proper n :=
    simplify_proper fun _ => not_mem_of_mem_pieces
  obtain ⟨k, hk⟩ := pieces_slash_joinWith hproper
  rw [normalize_slash]
  rcases root_slash t with hroot | ⟨u, -, hroot⟩
  · rw [hroot]
    exact ⟨k, hk⟩
  · rw [hroot]
    refine ⟨k + 1, ?_⟩
    change pieces ('/' :: '/' :: Text.joinWith ['/'] _) = _
    rw [pieces_slash, hk]
    rfl

lemma isAbsolute_join {base : Text} (h : isAbsolute base = true) (path : Text) :
    isAbsolute (join base path) = true := by
  obtain ⟨t, rfl⟩ := isAbsolute_iff.mp h
  unfold join
  split
  · assumption
  · split
    · simp_all
    · split <;> rfl

lemma isAbsolute_normalize {path : Text} (h : isAbsolute path = true) :
    isAbsolute (normalize path) = true := by
  obtain ⟨t, rfl⟩ := isAbsolute_iff.mp h
  obtain ⟨names, -, hnormal | hnormal⟩ := normal_normalize t <;> rw [hnormal] <;> rfl

lemma mem_of_mem_pieces {t piece : Text} {c : Char} (hc : c ∈ piece) (h : piece ∈ pieces t) :
    c ∈ t := by
  have hspell : c ∈ spell (pieces t) :=
    List.mem_flatMap.mpr ⟨piece, h, List.mem_cons_of_mem _ hc⟩
  rw [spell_pieces] at hspell
  refine (List.mem_cons.mp hspell).resolve_left ?_
  rintro rfl
  exact not_mem_of_mem_pieces h hc

lemma pieces_append_dots (pre : Text) {post : Text} (h : post = [] ∨ post.head? = some '/') :
    ∃ ps, pieces (pre ++ '/' :: '.' :: '.' :: post) = pieces pre ++ ['.', '.'] :: ps := by
  rw [pieces, Text.cutAt_append_sep]
  rcases h with rfl | h
  · exact ⟨[], rfl⟩
  · obtain ⟨u, rfl⟩ := List.head?_eq_some_iff.mp h
    have hcut := Text.cutAt_append_sep '/' ['.', '.'] u
    exact ⟨pieces u, congrArg _ hcut⟩

lemma spell_eq_nil_or (ps : List Text) : spell ps = [] ∨ (spell ps).head? = some '/' := by
  cases ps with
  | nil => exact Or.inl rfl
  | cons p ps => exact Or.inr rfl

end Path

end LineShell
