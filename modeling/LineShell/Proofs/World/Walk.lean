import LineShell.Proofs.Outcome
import LineShell.Proofs.Path
import LineShell.World.Tree

/-! Walks through a file tree, and paths in normal form: what a path leads to, its normal form leads
to as well. The other way round holds as far as each name that two dots take back is there. -/

namespace LineShell

open scoped List

namespace Text

lemma octetCount_le_of_sublist {t u : Text} (h : t <+ u) : octetCount t ≤ octetCount u :=
  (h.flatMap encodeChar).length_le

end Text

namespace Tree

variable {tree : Tree} {q r : List Text} {piece : Text} {xs ys : List Text}

lemma walk_append (tree : Tree) (q xs ys : List Text) :
    tree.walk q (xs ++ ys) = (tree.walk q xs).bind fun r => tree.walk r ys := by
  induction xs generalizing q with
  | nil => rfl
  | cons x xs ih =>
    rw [List.cons_append, walk, walk]
    split
    · rfl
    · rfl
    · split_ifs
      · exact ih q
      · exact ih q.dropLast
      · rfl
      · rfl
      · exact ih (q ++ [x])

lemma walk_append_eq_ok_iff :
    tree.walk q (xs ++ ys) = .ok r ↔ ∃ m, tree.walk q xs = .ok m ∧ tree.walk m ys = .ok r := by
  rw [walk_append, bind_eq_ok_iff]

lemma walk_cons_eq_ok_iff :
    tree.walk q (piece :: xs) = .ok r ↔
      ∃ m, tree.walk q [piece] = .ok m ∧ tree.walk m xs = .ok r := by
  rw [← List.singleton_append, walk_append_eq_ok_iff]

lemma walk_vanishing (hq : tree.node? q = some .directory) (h : Path.Vanishes piece) :
    tree.walk q (piece :: xs) = tree.walk q xs := by
  simp [walk, hq, show piece = [] ∨ piece = ['.'] from h]

lemma walk_dots (hq : tree.node? q = some .directory) :
    tree.walk q (['.', '.'] :: xs) = tree.walk q.dropLast xs := by
  simp [walk, hq]

structure Child (tree : Tree) (q : List Text) (n : Text) : Prop where
  above : tree.node? q = some .directory
  length : Text.octetCount n ≤ nameLimit
  here : tree.node? (q ++ [n]) ≠ none

lemma walk_proper (hq : tree.node? q = some .directory) (hn : Path.Proper piece) :
    tree.walk q (piece :: xs) =
      if nameLimit < Text.octetCount piece then .error .nameTooLong
      else if (tree.node? (q ++ [piece])).isNone then .error .noEntry
      else tree.walk (q ++ [piece]) xs := by
  simp [walk, hq, hn.ne_nil, hn.ne_dot, hn.ne_dots]

lemma walk_child (hn : Path.Proper piece) (h : tree.Child q piece) :
    tree.walk q (piece :: xs) = tree.walk (q ++ [piece]) xs := by
  rw [walk_proper h.above hn, if_neg (Nat.not_lt.mpr h.length), if_neg (by simpa using h.here)]

lemma directory_of_walk_cons (h : tree.walk q (piece :: xs) = .ok r) :
    tree.node? q = some .directory := by
  rw [walk] at h
  split at h
  · cases h
  · cases h
  · assumption

lemma child_of_walk (hn : Path.Proper piece) (h : tree.walk q (piece :: xs) = .ok r) :
    tree.Child q piece := by
  have hq := directory_of_walk_cons h
  rw [walk_proper hq hn] at h
  split_ifs at h with hlength hnone
  exact ⟨hq, Nat.le_of_not_lt hlength, by simpa using hnone⟩

/-- A place that can be walked to from the root by its names. -/
inductive Passable (tree : Tree) : List Text → Prop
  | root : Passable tree []
  | child {q : List Text} {n : Text} :
    Passable tree q → Path.Proper n → tree.Child q n → Passable tree (q ++ [n])

namespace Passable

lemma proper (h : tree.Passable q) : ∀ n ∈ q, Path.Proper n := by
  induction h with
  | root => simp
  | child _ hn _ ih => simpa [or_imp, forall_and] using ⟨ih, hn⟩

lemma dropLast (h : tree.Passable q) : tree.Passable q.dropLast := by
  cases h with
  | root => exact .root
  | child h _ _ => simpa using h

lemma walk_self (h : tree.Passable q) : tree.walk [] q = .ok q := by
  induction h with
  | root => rfl
  | child _ hn hchild ih => rw [walk_append, ih, Except.bind, walk_child hn hchild, walk]

-- By induction on the pieces: what is left of them, last name first, is the place that is reached.
lemma walk_eq_place (h : tree.Passable q) (hxs : ∀ x ∈ xs, '/' ∉ x)
    (hwalk : tree.walk q xs = .ok r) :
    tree.Passable r ∧ xs.foldl (Path.place true) q.reverse = r.reverse := by
  induction xs generalizing q with
  | nil =>
    obtain rfl := Except.ok.inj hwalk
    exact ⟨h, rfl⟩
  | cons x xs ih =>
    obtain ⟨hx, hrest⟩ := List.forall_mem_cons.mp hxs
    have hq := directory_of_walk_cons hwalk
    rw [List.foldl_cons]
    rcases Path.piece_cases hx with hvanish | rfl | hproper
    · rw [walk_vanishing hq hvanish] at hwalk
      rw [Path.place_vanishing hvanish]
      exact ih h hrest hwalk
    · rw [walk_dots hq] at hwalk
      rw [Path.place_dots fun n hn => h.proper n (List.mem_reverse.mp hn), List.tail_reverse]
      exact ih h.dropLast hrest hwalk
    · have hchild := child_of_walk hproper hwalk
      rw [walk_child hproper hchild] at hwalk
      rw [Path.place_proper hproper]
      simpa using ih (h.child hproper hchild) hrest hwalk

end Passable

lemma eq_simplify_of_walk (hxs : ∀ x ∈ xs, '/' ∉ x) (h : tree.walk [] xs = .ok r) :
    tree.Passable r ∧ r = Path.simplify xs := by
  obtain ⟨hr, hplace⟩ := Passable.root.walk_eq_place hxs h
  refine ⟨hr, ?_⟩
  rw [Path.simplify]
  exact (List.reverse_eq_iff.mpr hplace).symm

lemma walk_replicate (h : tree.node? [] = some .directory) (k : Nat) :
    tree.walk [] (List.replicate k [] ++ xs) = tree.walk [] xs := by
  induction k with
  | zero => rfl
  | succ k ih => rw [List.replicate_succ, List.cons_append, walk_vanishing h (Or.inl rfl), ih]

lemma locate_eq_ok_iff {path : Text} {place : List Text} :
    tree.locate path = .ok place ↔ '\x00' ∉ path ∧ Text.octetCount path < pathLimit ∧
      tree.walk [] (Path.pieces path).tail = .ok place := by
  unfold locate
  split_ifs with hnull hlong
  · simp_all
  · simp [Nat.not_lt.mpr hlong]
  · rw [mapError_eq_ok_iff]
    simp_all

lemma lookup_eq_ok_iff {path : Text} {n : TreeNode} :
    tree.lookup path = .ok n ↔ ∃ place, tree.locate path = .ok place ∧ tree.node? place = some n := by
  change (tree.locate path).bind _ = _ ↔ _
  rw [bind_eq_ok_iff]
  refine exists_congr fun place => and_congr_right fun _ => ?_
  cases hn : tree.node? place with
  | none =>
    constructor
    · intro h
      cases h
    · intro h
      cases h
  | some m =>
    constructor
    · intro h
      exact congrArg some (Except.ok.inj h)
    · intro h
      exact congrArg _ (Option.some.inj h)

lemma isDirectory_iff {path : Text} :
    tree.isDirectory path = true ↔
      ∃ place, tree.locate path = .ok place ∧ tree.node? place = some .directory := by
  rw [← lookup_eq_ok_iff]
  unfold isDirectory
  split <;> simp_all

lemma pathExists_of_isDirectory {path : Text} (h : tree.isDirectory path = true) :
    tree.pathExists path = true := by
  rw [pathExists, lookup_eq_ok_iff.mpr (isDirectory_iff.mp h)]
  rfl

lemma locate_normalize {path : Text} {place : List Text} (habs : Path.isAbsolute path = true)
    (h : tree.locate path = .ok place) : tree.locate (Path.normalize path) = .ok place := by
  obtain ⟨t, rfl⟩ := Path.isAbsolute_iff.mp habs
  obtain ⟨hnull, hlength, hwalk⟩ := locate_eq_ok_iff.mp h
  rw [Path.pieces_slash, List.tail_cons] at hwalk
  obtain ⟨hplace, rfl⟩ := eq_simplify_of_walk (fun _ => Path.not_mem_of_mem_pieces) hwalk
  have hsub := Path.normalize_sublist t
  have hroot : tree.node? [] = some .directory := by
    obtain ⟨x, xs, hx⟩ := List.exists_cons_of_ne_nil (Path.pieces_ne_nil t)
    rw [hx] at hwalk
    exact directory_of_walk_cons hwalk
  refine locate_eq_ok_iff.mpr ⟨fun hmem => hnull (hsub.mem hmem),
    Nat.lt_of_le_of_lt (Text.octetCount_le_of_sublist hsub) hlength, ?_⟩
  obtain ⟨k, hk⟩ := Path.pieces_normalize t
  rw [hk, List.tail_cons, walk_replicate hroot, hplace.walk_self]

lemma walk_of_replicate {k : Nat} (h : tree.walk [] (List.replicate k [] ++ xs) = .ok r) :
    tree.walk [] xs = .ok r := by
  cases k with
  | zero => exact h
  | succ k => rwa [walk_replicate (directory_of_walk_cons h)] at h

lemma directory_of_walk (h : tree.walk q xs = .ok r) (hr : tree.node? r = some .directory) :
    tree.node? q = some .directory := by
  cases xs with
  | nil =>
    obtain rfl := Except.ok.inj h
    exact hr
  | cons x xs => exact directory_of_walk_cons h

lemma walk_of_filter (h : tree.walk q (xs.filter (¬ Path.Vanishes ·)) = .ok r)
    (hr : tree.node? r = some .directory) : tree.walk q xs = .ok r := by
  induction xs generalizing q with
  | nil => exact h
  | cons x xs ih =>
    by_cases hx : Path.Vanishes x
    · rw [List.filter_cons_of_neg (by simpa using hx)] at h
      rw [walk_vanishing (directory_of_walk h hr) hx]
      exact ih h
    · rw [List.filter_cons_of_pos (by simpa using hx), walk_cons_eq_ok_iff] at h
      obtain ⟨m, hm, hrest⟩ := h
      exact walk_cons_eq_ok_iff.mpr ⟨m, hm, ih hrest⟩

section

variable (hxs : ∀ x ∈ xs, '/' ∉ x)
  (hback : ∀ pre post, xs = pre ++ ['.', '.'] :: post →
    ∃ m, tree.walk [] pre = .ok m ∧ tree.node? m = some .directory)

include hxs hback

lemma walk_of_simplify (h : tree.walk [] (Path.simplify xs) = .ok r)
    (hr : tree.node? r = some .directory) : tree.walk [] xs = .ok r := by
  rcases Path.simplify_cases hxs with hnames | ⟨pre, post, rfl, hnames⟩
  · rw [hnames] at h
    exact walk_of_filter h hr
  · obtain ⟨m, hm, hdir⟩ := hback pre post rfl
    obtain ⟨hpass, rfl⟩ := eq_simplify_of_walk (fun x hx => hxs x (List.mem_append_left _ hx)) hm
    rw [hnames, walk_append, hpass.dropLast.walk_self] at h
    rw [walk_append, hm]
    change tree.walk (Path.simplify pre) (['.', '.'] :: post) = .ok r
    rw [walk_dots hdir]
    exact walk_of_filter h hr

end

lemma isDirectory_spell_iff {ps : List Text} (h : ∀ p ∈ ps, '/' ∉ p) :
    tree.isDirectory (Path.spell ps) = true ↔ '\x00' ∉ Path.spell ps ∧
      Text.octetCount (Path.spell ps) < pathLimit ∧
      ∃ place, tree.walk [] ps = .ok place ∧ tree.node? place = some .directory := by
  simp only [isDirectory_iff, locate_eq_ok_iff, Path.pieces_spell h, List.tail_cons, and_assoc,
    exists_and_left]

lemma isDirectory_of_append_dots {pre post : Text}
    (h : tree.isDirectory (pre ++ '/' :: '.' :: '.' :: post) = true)
    (hpost : post = [] ∨ post.head? = some '/') : tree.isDirectory pre = true := by
  have hsub : pre <+ pre ++ '/' :: '.' :: '.' :: post := List.sublist_append_left ..
  obtain ⟨place, hplace, -⟩ := isDirectory_iff.mp h
  obtain ⟨hnull, hlength, hwalk⟩ := locate_eq_ok_iff.mp hplace
  obtain ⟨ps, hps⟩ := Path.pieces_append_dots pre hpost
  rw [hps, List.tail_append_of_ne_nil (Path.pieces_ne_nil pre)] at hwalk
  obtain ⟨m, hm, hrest⟩ := walk_append_eq_ok_iff.mp hwalk
  exact isDirectory_iff.mpr ⟨m, locate_eq_ok_iff.mpr ⟨fun hmem => hnull (hsub.mem hmem),
    Nat.lt_of_le_of_lt (Text.octetCount_le_of_sublist hsub) hlength, hm⟩, directory_of_walk_cons hrest⟩

section

variable {t : Text} (h : tree.isDirectory (Path.normalize ('/' :: t)) = true)
  (hback : ∀ pre post, '/' :: t = pre ++ '/' :: '.' :: '.' :: post →
    post = [] ∨ post.head? = some '/' → tree.isDirectory pre = true)

include hback

lemma isDirectory_before_dots {pre post : List Text}
    (hsplit : Path.pieces t = pre ++ ['.', '.'] :: post) :
    tree.isDirectory (Path.spell pre) = true := by
  refine hback (Path.spell pre) (Path.spell post) ?_ (Path.spell_eq_nil_or post)
  rw [← Path.spell_pieces, hsplit, Path.spell_append]
  rfl

include h

lemma null_not_mem_of_normalize : '\x00' ∉ '/' :: t := by
  intro hmem
  have hpieces : ∀ p ∈ Path.pieces t, '/' ∉ p := fun _ => Path.not_mem_of_mem_pieces
  obtain ⟨k, hk⟩ := Path.pieces_normalize t
  obtain ⟨place, hplace, -⟩ := isDirectory_iff.mp h
  have hnull := (locate_eq_ok_iff.mp hplace).1
  rw [← Path.spell_pieces] at hmem
  obtain ⟨p, hp, hmem⟩ := List.mem_flatMap.mp hmem
  have hpnull : '\x00' ∈ p := (List.mem_cons.mp hmem).resolve_left (by decide)
  have hstays : ¬ Path.Vanishes p := by
    rintro (rfl | rfl) <;> simp at hpnull
  have hleft : p ∉ Path.simplify (Path.pieces t) := by
    intro hp
    refine hnull (Path.mem_of_mem_pieces hpnull ?_)
    rw [hk]
    exact List.mem_cons_of_mem _ (List.mem_append_right _ hp)
  rcases Path.simplify_cases hpieces with hnames | ⟨pre, post, hsplit, hnames⟩
  · exact hleft (hnames ▸ List.mem_filter.mpr ⟨hp, by simpa using hstays⟩)
  · rcases List.mem_append.mp (hsplit ▸ hp) with hp | hp
    · obtain ⟨place, hplace, -⟩ := isDirectory_iff.mp (isDirectory_before_dots hback hsplit)
      refine (locate_eq_ok_iff.mp hplace).1 ?_
      exact List.mem_flatMap.mpr ⟨p, hp, hmem⟩
    · rcases List.mem_cons.mp hp with rfl | hp
      · simp at hpnull
      · refine hleft (hnames ▸ List.mem_append_right _ ?_)
        exact List.mem_filter.mpr ⟨hp, by simpa using hstays⟩

end

lemma isDirectory_iff_of_normalize {t : Text}
    (h : tree.isDirectory (Path.normalize ('/' :: t)) = true) :
    tree.isDirectory ('/' :: t) = true ↔ Text.octetCount ('/' :: t) < pathLimit ∧
      ∀ pre post, '/' :: t = pre ++ '/' :: '.' :: '.' :: post →
        post = [] ∨ post.head? = some '/' → tree.isDirectory pre = true := by
  constructor
  · intro hdir
    obtain ⟨place, hplace, -⟩ := isDirectory_iff.mp hdir
    refine ⟨(locate_eq_ok_iff.mp hplace).2.1, fun pre post hsplit hpost => ?_⟩
    rw [hsplit] at hdir
    exact isDirectory_of_append_dots hdir hpost
  · rintro ⟨hlength, hback⟩
    have hpieces : ∀ p ∈ Path.pieces t, '/' ∉ p := fun _ => Path.not_mem_of_mem_pieces
    have hnull := null_not_mem_of_normalize h hback
    obtain ⟨place, hplace, hdir⟩ := isDirectory_iff.mp h
    obtain ⟨k, hk⟩ := Path.pieces_normalize t
    obtain ⟨-, -, hwalk⟩ := locate_eq_ok_iff.mp hplace
    rw [hk] at hwalk
    refine isDirectory_iff.mpr ⟨place, locate_eq_ok_iff.mpr ⟨hnull, hlength, ?_⟩, hdir⟩
    rw [Path.pieces_slash, List.tail_cons]
    refine walk_of_simplify hpieces (fun pre post hsplit => ?_) (walk_of_replicate hwalk) hdir
    have hpre : ∀ p ∈ pre, '/' ∉ p := fun p hp => hpieces p (by simp [hsplit, hp])
    exact ((isDirectory_spell_iff hpre).mp (isDirectory_before_dots hback hsplit)).2.2

end Tree

end LineShell
