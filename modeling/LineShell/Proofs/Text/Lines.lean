import LineShell.Builtin
import LineShell.Proofs.Lexeme.Cut
import Mathlib.Data.List.Flatten
import Mathlib.Data.List.SplitBy

/-! The lines of a text in two readings. A search cuts at every character that ends a line, while a
count knows line feeds only. The first reading splits further what the second one leaves whole. -/

namespace LineShell.Text

def Unbroken (t : Text) : Prop :=
  ∀ c ∈ t, isLineEnd c = false

def FeedsOnly (t : Text) : Prop :=
  ∀ c ∈ t, isLineEnd c = true → c = '\n'

instance (t : Text) : Decidable t.FeedsOnly :=
  decidable_of_iff (t.all fun c => !isLineEnd c || c = '\n') <| by
    simp [FeedsOnly, ← Bool.not_eq_true, ← imp_iff_not_or]

def feedPieces (t : Text) : List Text :=
  t.splitBy fun c _ => c ≠ '\n'

def beforeFeed (t : Text) : Text :=
  t.takeWhile (· ≠ '\n')

def feedLines (t : Text) : List Text :=
  t.feedPieces.map beforeFeed

section

variable {a b t cs : Text} {c : Char}

lemma splitLines_crlf (cs : Text) : splitLines ('\r' :: '\n' :: cs) = [] :: splitLines cs := by
  rw [splitLines]

lemma splitLines_of_isLineEnd (hc : isLineEnd c = true) (hcrlf : c = '\r' → cs.head? ≠ some '\n') :
    splitLines (c :: cs) = [] :: splitLines cs := by
  rw [splitLines]
  · rw [if_pos hc]
  · rintro ds rfl rfl
    exact hcrlf rfl rfl

lemma splitLines_feed (cs : Text) : splitLines ('\n' :: cs) = [] :: splitLines cs :=
  splitLines_of_isLineEnd rfl fun h => absurd h (by decide)

lemma splitLines_of_not_isLineEnd (hc : isLineEnd c = false) :
    splitLines (c :: cs) = (c :: (splitLines cs).headD []) :: (splitLines cs).tail := by
  rw [splitLines]
  · rw [if_neg (by simp [hc])]
    cases splitLines cs <;> rfl
  · rintro ds rfl -
    cases hc

@[elab_as_elim]
lemma lineInduction {motive : Text → Prop} (nil : motive [])
    (crlf : ∀ cs, motive cs → motive ('\r' :: '\n' :: cs))
    (ending : ∀ c cs, isLineEnd c = true → (c = '\r' → cs.head? ≠ some '\n') → motive cs →
      motive (c :: cs))
    (other : ∀ c cs, isLineEnd c = false → motive cs → motive (c :: cs)) (t : Text) : motive t := by
  fun_induction splitLines t with
  | case1 => exact nil
  | case2 cs ih => exact crlf cs ih
  | case3 c cs hcrlf hc ih =>
    refine ending c cs hc (fun hcr hhead => ?_) ih
    obtain ⟨ds, rfl⟩ := List.head?_eq_some_iff.mp hhead
    exact hcrlf ds hcr rfl
  | case4 c cs _ hc _ ih => exact other c cs (eq_false_of_ne_true hc) ih
  | case5 c cs _ hc _ _ _ ih => exact other c cs (eq_false_of_ne_true hc) ih

lemma unbroken_nil : Unbroken [] := by
  simp [Unbroken]

lemma unbroken_cons_iff : Unbroken (c :: cs) ↔ isLineEnd c = false ∧ Unbroken cs :=
  List.forall_mem_cons

lemma splitLines_ne_nil (h : t ≠ []) : splitLines t ≠ [] := by
  cases t using lineInduction with
  | nil => exact absurd rfl h
  | crlf cs => simp [splitLines_crlf]
  | ending c cs hc hcrlf => simp [splitLines_of_isLineEnd hc hcrlf]
  | other c cs hc => simp [splitLines_of_not_isLineEnd hc]

lemma unbroken_of_mem_splitLines (t : Text) : ∀ l ∈ splitLines t, Unbroken l := by
  induction t using lineInduction with
  | nil => simp [splitLines]
  | crlf cs ih =>
    rw [splitLines_crlf]
    exact List.forall_mem_cons.mpr ⟨unbroken_nil, ih⟩
  | ending c cs hc hcrlf ih =>
    rw [splitLines_of_isLineEnd hc hcrlf]
    exact List.forall_mem_cons.mpr ⟨unbroken_nil, ih⟩
  | other c cs hc ih =>
    rw [splitLines_of_not_isLineEnd hc]
    refine List.forall_mem_cons.mpr ⟨unbroken_cons_iff.mpr ⟨hc, ?_⟩, fun l hl => ?_⟩
    · cases hcs : splitLines cs with
      | nil => exact unbroken_nil
      | cons m ms => exact ih m (hcs ▸ List.mem_cons_self)
    · exact ih l (List.mem_of_mem_tail hl)

-- The line feed may be the second half of a line end that starts in the text before it.
lemma splitLines_append_feed (a b : Text) :
    splitLines (a ++ '\n' :: b) = splitLines (a ++ ['\n']) ++ splitLines b := by
  induction a using lineInduction with
  | nil => simp [splitLines_feed, splitLines]
  | crlf cs ih => simp [splitLines_crlf, ih]
  | ending c cs hc hcrlf ih =>
    by_cases hpair : c = '\r' ∧ cs = []
    · obtain ⟨rfl, rfl⟩ := hpair
      simp [splitLines_crlf, splitLines]
    · have hhead : ∀ d, c = '\r' → (cs ++ '\n' :: d).head? ≠ some '\n' := by
        intro d hcr
        obtain ⟨e, es, rfl⟩ := List.exists_cons_of_ne_nil fun hcs => hpair ⟨hcr, hcs⟩
        exact hcrlf hcr
      simp only [List.cons_append, splitLines_of_isLineEnd hc (hhead _), ih]
  | other c cs hc ih =>
    have hne := splitLines_ne_nil (List.concat_ne_nil '\n' cs)
    obtain ⟨l, ls, hcs⟩ := List.exists_cons_of_ne_nil hne
    simp only [List.cons_append, splitLines_of_not_isLineEnd hc, ih, hcs, List.headD_cons,
      List.tail_cons]

lemma splitLines_of_unbroken (hne : t ≠ []) (h : Unbroken t) : splitLines t = [t] := by
  induction t with
  | nil => exact absurd rfl hne
  | cons c cs ih =>
    obtain ⟨hc, hcs⟩ := unbroken_cons_iff.mp h
    rw [splitLines_of_not_isLineEnd hc]
    cases cs with
    | nil => rfl
    | cons d ds => rw [ih (List.cons_ne_nil d ds) hcs]; rfl

lemma splitLines_unbroken_feed (h : Unbroken t) : splitLines (t ++ ['\n']) = [t] := by
  induction t with
  | nil => rfl
  | cons c cs ih =>
    obtain ⟨hc, hcs⟩ := unbroken_cons_iff.mp h
    rw [List.cons_append, splitLines_of_not_isLineEnd hc, ih hcs]
    rfl

lemma asLines_cons (l : Text) (ls : List Text) :
    Site.asLines (l :: ls) = l ++ '\n' :: Site.asLines ls := by
  simp [Site.asLines]

lemma splitLines_asLines {ls : List Text} (h : ∀ l ∈ ls, Unbroken l) :
    splitLines (Site.asLines ls) = ls := by
  induction ls with
  | nil => rfl
  | cons l ls ih =>
    obtain ⟨hl, hls⟩ := List.forall_mem_cons.mp h
    rw [asLines_cons, splitLines_append_feed, splitLines_unbroken_feed hl, ih hls]
    rfl

end

section

variable {b rest t : Text}

@[elab_as_elim]
lemma feedInduction {motive : Text → Prop} (nil : motive [])
    (unfinished : ∀ b, '\n' ∉ b → b ≠ [] → motive b)
    (line : ∀ b rest, '\n' ∉ b → motive rest → motive (b ++ '\n' :: rest)) (t : Text) :
    motive t := by
  induction h : t.count '\n' generalizing t with
  | zero =>
    by_cases ht : t = []
    · exact ht ▸ nil
    · exact unfinished t (List.count_eq_zero.mp h) ht
  | succ n ih =>
    have hmem : '\n' ∈ t := List.count_pos_iff.mp (by omega)
    obtain ⟨b, rest, rfl, hb⟩ := List.eq_append_cons_of_mem hmem
    refine line b rest hb (ih rest ?_)
    rw [List.count_append, List.count_cons_self, List.count_eq_zero.mpr hb] at h
    omega

lemma isChain_ne_feed (h : '\n' ∉ b) : b.IsChain fun c _ => decide (c ≠ '\n') = true := by
  induction b with
  | nil => exact .nil
  | cons c cs ih =>
    obtain ⟨hc, hcs⟩ := not_or.mp (mt List.mem_cons.mpr h)
    exact List.isChain_cons.mpr ⟨fun _ _ => decide_eq_true (Ne.symm hc), ih hcs⟩

lemma feedPieces_unfinished (h : '\n' ∉ b) (hne : b ≠ []) : feedPieces b = [b] :=
  List.splitBy_of_isChain hne (isChain_ne_feed h)

lemma feedPieces_line (h : '\n' ∉ b) (rest : Text) :
    feedPieces (b ++ '\n' :: rest) = (b ++ ['\n']) :: feedPieces rest := by
  have hline : (b ++ ['\n']).IsChain fun c _ => decide (c ≠ '\n') = true := by
    refine List.isChain_append.mpr ⟨isChain_ne_feed h, List.isChain_singleton _, fun c hc _ _ => ?_⟩
    exact decide_eq_true fun hfeed => h (hfeed ▸ List.mem_of_getLast? hc)
  have hsplit : feedPieces (b ++ ['\n'] ++ rest) = feedPieces (b ++ ['\n']) ++ feedPieces rest := by
    refine List.splitBy_append fun c hc _ _ => ?_
    rw [List.getLast?_concat] at hc
    simp [← Option.some.inj hc]
  rw [List.append_cons, hsplit]
  exact congrArg (· ++ feedPieces rest) (List.splitBy_of_isChain (by simp) hline)

lemma beforeFeed_of_not_mem (h : '\n' ∉ b) : beforeFeed b = b :=
  List.takeWhile_eq_self_iff.mpr (forall_ne_of_not_mem h)

lemma beforeFeed_append (h : '\n' ∉ b) (rest : Text) : beforeFeed (b ++ '\n' :: rest) = b :=
  takeWhile_ne_append h rest

lemma feedLines_unfinished (h : '\n' ∉ b) (hne : b ≠ []) : feedLines b = [b] := by
  rw [feedLines, feedPieces_unfinished h hne, List.map_singleton, beforeFeed_of_not_mem h]

lemma feedLines_line (h : '\n' ∉ b) (rest : Text) :
    feedLines (b ++ '\n' :: rest) = b :: feedLines rest := by
  simp only [feedLines, feedPieces_line h, List.map_cons, beforeFeed_append h]

lemma splitLines_eq_flatMap (t : Text) : splitLines t = t.feedPieces.flatMap splitLines := by
  induction t using feedInduction with
  | nil => rfl
  | unfinished b hb hne => simp [feedPieces_unfinished hb hne]
  | line b rest hb ih => rw [splitLines_append_feed, ih, feedPieces_line hb, List.flatMap_cons]

lemma feedPieces_cases (t : Text) :
    ∀ piece ∈ t.feedPieces, ∃ b, '\n' ∉ b ∧ (piece = b ++ ['\n'] ∨ piece = b ∧ b ≠ []) := by
  induction t using feedInduction with
  | nil => simp [feedPieces]
  | unfinished b hb hne =>
    rw [feedPieces_unfinished hb hne]
    exact List.forall_mem_singleton.mpr ⟨b, hb, Or.inr ⟨rfl, hne⟩⟩
  | line b rest hb ih =>
    rw [feedPieces_line hb]
    exact List.forall_mem_cons.mpr ⟨⟨b, hb, Or.inl rfl⟩, ih⟩

lemma Unbroken.not_mem_feed {l : Text} (h : Unbroken l) : '\n' ∉ l :=
  fun hmem => Bool.noConfusion (h '\n' hmem)

lemma withFinalNewline_of_getLast? {c : Char} (h : t.getLast? = some c) :
    withFinalNewline t = if c = '\n' then t else t ++ ['\n'] := by
  simp only [withFinalNewline, h]

lemma withFinalNewline_append_feed (b rest : Text) :
    withFinalNewline (b ++ '\n' :: rest) = b ++ '\n' :: withFinalNewline rest := by
  cases h : rest.getLast? with
  | none =>
    obtain rfl := List.getLast?_eq_none_iff.mp h
    rw [withFinalNewline_of_getLast? List.getLast?_concat, if_pos rfl]
    rfl
  | some c =>
    have hlast : (b ++ '\n' :: rest).getLast? = some c := by simp [List.getLast?_cons, h]
    rw [withFinalNewline_of_getLast? hlast, withFinalNewline_of_getLast? h]
    split <;> simp

lemma asLines_feedLines (t : Text) : Site.asLines t.feedLines = t.withFinalNewline := by
  induction t using feedInduction with
  | nil => rfl
  | unfinished b hb hne =>
    obtain ⟨c, hc⟩ := Option.isSome_iff_exists.mp (List.getLast?_isSome.mpr hne)
    have hfeed : c ≠ '\n' := ne_of_mem_of_not_mem (List.mem_of_getLast? hc) hb
    rw [feedLines_unfinished hb hne, withFinalNewline_of_getLast? hc, if_neg hfeed]
    exact asLines_cons b []
  | line b rest hb ih =>
    rw [feedLines_line hb, asLines_cons, ih, withFinalNewline_append_feed]

lemma feedLines_asLines {ls : List Text} (h : ∀ l ∈ ls, '\n' ∉ l) :
    feedLines (Site.asLines ls) = ls := by
  induction ls with
  | nil => rfl
  | cons l ls ih =>
    obtain ⟨hl, hls⟩ := List.forall_mem_cons.mp h
    rw [asLines_cons, feedLines_line hl, ih hls]

lemma not_mem_feed_of_mem_feedLines (t : Text) : ∀ l ∈ t.feedLines, '\n' ∉ l := by
  intro l hl hmem
  obtain ⟨piece, -, rfl⟩ := List.mem_map.mp hl
  simpa using List.mem_takeWhile_imp hmem

lemma asLines_inj {ls ms : List Text} (hls : ∀ l ∈ ls, '\n' ∉ l) (hms : ∀ l ∈ ms, '\n' ∉ l) :
    Site.asLines ls = Site.asLines ms ↔ ls = ms := by
  refine ⟨fun h => ?_, congrArg _⟩
  rw [← feedLines_asLines hls, h, feedLines_asLines hms]

lemma count_asLines {ls : List Text} (h : ∀ l ∈ ls, '\n' ∉ l) :
    (Site.asLines ls).count '\n' = ls.length := by
  induction ls with
  | nil => rfl
  | cons l ls ih =>
    obtain ⟨hl, hls⟩ := List.forall_mem_cons.mp h
    rw [asLines_cons, List.count_append, List.count_cons_self, List.count_eq_zero.mpr hl, ih hls,
      Nat.zero_add, List.length_cons]

lemma feedsOnly_piece_iff {piece : Text} (hpiece : piece ∈ t.feedPieces) :
    FeedsOnly piece ↔ Unbroken piece.beforeFeed := by
  obtain ⟨b, hb, hcases⟩ := feedPieces_cases t piece hpiece
  have hbefore : piece.beforeFeed = b := by
    rcases hcases with rfl | ⟨rfl, -⟩
    · exact beforeFeed_append hb []
    · exact beforeFeed_of_not_mem hb
  have hmem : ∀ c ∈ piece, c ∈ b ∨ c = '\n' := by
    rcases hcases with rfl | ⟨rfl, -⟩
    · simp
    · exact fun c hc => Or.inl hc
  rw [hbefore]
  constructor
  · intro h c hc
    by_contra hend
    have hpre : b.Sublist piece := hbefore ▸ List.takeWhile_sublist _
    exact hb (h c (hpre.mem hc) (eq_true_of_ne_false hend) ▸ hc)
  · intro h c hc hend
    refine (hmem c hc).resolve_left fun hcb => ?_
    rw [h c hcb] at hend
    exact Bool.false_ne_true hend

lemma splitLines_piece {piece : Text} (hpiece : piece ∈ t.feedPieces) (h : FeedsOnly piece) :
    splitLines piece = [piece.beforeFeed] := by
  have hunbroken := (feedsOnly_piece_iff hpiece).mp h
  obtain ⟨b, hb, rfl | ⟨rfl, hne⟩⟩ := feedPieces_cases t piece hpiece
  · rw [beforeFeed_append hb] at hunbroken ⊢
    exact splitLines_unbroken_feed hunbroken
  · rw [beforeFeed_of_not_mem hb] at hunbroken ⊢
    exact splitLines_of_unbroken hne hunbroken

lemma FeedsOnly.of_mem_feedPieces {piece : Text} (h : FeedsOnly t) (hpiece : piece ∈ t.feedPieces) :
    FeedsOnly piece := by
  intro c hc
  refine h c ?_
  rw [← List.flatten_splitBy (fun c _ => decide (c ≠ '\n')) t]
  exact List.mem_flatten_of_mem hpiece hc

lemma mem_withFinalNewline {c : Char} (h : c ∈ t) : c ∈ t.withFinalNewline := by
  obtain ⟨d, hd⟩ := Option.isSome_iff_exists.mp (List.getLast?_isSome.mpr (List.ne_nil_of_mem h))
  rw [withFinalNewline_of_getLast? hd]
  split
  · exact h
  · exact List.mem_append_left _ h

lemma feedsOnly_asLines {ls : List Text} (h : ∀ l ∈ ls, Unbroken l) :
    FeedsOnly (Site.asLines ls) := by
  intro c hc hend
  obtain ⟨l, hl, hcl⟩ := List.mem_flatMap.mp hc
  rcases List.mem_append.mp hcl with hline | hfeed
  · rw [h l hl c hline] at hend
    exact absurd hend Bool.false_ne_true
  · exact List.mem_singleton.mp hfeed

lemma splitLines_eq_feedLines (h : FeedsOnly t) : splitLines t = feedLines t := by
  rw [splitLines_eq_flatMap, feedLines, List.map_eq_flatMap]
  exact List.flatMap_congr fun piece hpiece => splitLines_piece hpiece (h.of_mem_feedPieces hpiece)

end

lemma eq_of_flatMap_eq {α β : Type} {f g : α → List β} {xs : List α}
    (hsub : ∀ x ∈ xs, (f x).Sublist (g x)) (h : xs.flatMap f = xs.flatMap g) :
    ∀ x ∈ xs, f x = g x := by
  induction xs with
  | nil => simp
  | cons x xs ih =>
    obtain ⟨hx, hxs⟩ := List.forall_mem_cons.mp hsub
    have hrest := (List.Sublist.flatMap_right xs hxs).length_le
    have hlength := congrArg List.length h
    rw [List.flatMap_cons, List.flatMap_cons, List.length_append, List.length_append] at hlength
    have hhead := hx.length_le
    obtain ⟨heq, hmore⟩ := List.append_inj h (by omega)
    exact List.forall_mem_cons.mpr ⟨heq, ih hxs hmore⟩

-- A line that a search finds in both readings is one that they read alike.
lemma not_hit_of_filter_eq {hit : Text → Bool} {t piece : Text}
    (h : t.feedLines.filter hit = t.splitLines.filter hit) (hpiece : piece ∈ t.feedPieces)
    (honly : ¬ FeedsOnly piece) : hit piece.beforeFeed = false := by
  by_contra hhit
  have hfound : piece.beforeFeed ∈ t.feedLines.filter hit :=
    List.mem_filter.mpr ⟨List.mem_map_of_mem hpiece, eq_true_of_ne_false hhit⟩
  rw [h] at hfound
  have hunbroken := unbroken_of_mem_splitLines t _ (List.mem_filter.mp hfound).1
  exact honly ((feedsOnly_piece_iff hpiece).mpr hunbroken)

lemma filter_feedLines_iff (hit : Text → Bool) (t : Text) :
    t.feedLines.filter hit = t.splitLines.filter hit ↔
      ∀ piece ∈ t.feedPieces, ¬ FeedsOnly piece →
        hit piece.beforeFeed = false ∧ ∀ l ∈ piece.splitLines, hit l = false := by
  have hfeed : t.feedLines.filter hit =
      t.feedPieces.flatMap fun piece => [piece.beforeFeed].filter hit := by
    rw [feedLines, List.map_eq_flatMap, List.filter_flatMap]
  have hsplit : t.splitLines.filter hit =
      t.feedPieces.flatMap fun piece => piece.splitLines.filter hit := by
    rw [splitLines_eq_flatMap, List.filter_flatMap]
  constructor
  · intro h
    have hline : ∀ piece ∈ t.feedPieces, ¬ FeedsOnly piece → hit piece.beforeFeed = false :=
      fun piece hpiece honly => not_hit_of_filter_eq h hpiece honly
    have hnone : ∀ piece ∈ t.feedPieces, ¬ FeedsOnly piece → [piece.beforeFeed].filter hit = [] :=
      fun piece hpiece honly => by simpa using hline piece hpiece honly
    have hsub : ∀ piece ∈ t.feedPieces,
        ([piece.beforeFeed].filter hit).Sublist (piece.splitLines.filter hit) := by
      intro piece hpiece
      by_cases honly : FeedsOnly piece
      · rw [splitLines_piece hpiece honly]
      · rw [hnone piece hpiece honly]
        exact List.nil_sublist _
    rw [hfeed, hsplit] at h
    intro piece hpiece honly
    have hparts := eq_of_flatMap_eq hsub h piece hpiece
    rw [hnone piece hpiece honly] at hparts
    refine ⟨hline piece hpiece honly, fun l hl => ?_⟩
    exact eq_false_of_ne_true (List.filter_eq_nil_iff.mp hparts.symm l hl)
  · intro h
    rw [hfeed, hsplit]
    refine List.flatMap_congr fun piece hpiece => ?_
    by_cases honly : FeedsOnly piece
    · rw [splitLines_piece hpiece honly]
    · obtain ⟨hline, hparts⟩ := h piece hpiece honly
      rw [List.filter_eq_nil_iff.mpr (by simpa using hline),
        List.filter_eq_nil_iff.mpr (by simpa using hparts)]

lemma length_splitLines_of_not_isLineEnd {c : Char} {cs : Text} (hc : isLineEnd c = false)
    (hcs : cs ≠ []) : (splitLines (c :: cs)).length = (splitLines cs).length := by
  obtain ⟨l, ls, h⟩ := List.exists_cons_of_ne_nil (splitLines_ne_nil hcs)
  rw [splitLines_of_not_isLineEnd hc, h]
  rfl

lemma ne_feed_of_not_isLineEnd {c : Char} (hc : isLineEnd c = false) : c ≠ '\n' := by
  rintro rfl
  cases hc

lemma count_le_length_splitLines (t : Text) : t.count '\n' ≤ t.splitLines.length := by
  induction t using lineInduction with
  | nil => exact Nat.le_refl 0
  | crlf cs ih => simpa [splitLines_crlf] using ih
  | ending c cs hc hcrlf ih =>
    rw [splitLines_of_isLineEnd hc hcrlf, List.count_cons, List.length_cons]
    split <;> omega
  | other c cs hc ih =>
    rw [List.count_cons_of_ne (ne_feed_of_not_isLineEnd hc)]
    cases cs with
    | nil => exact Nat.zero_le _
    | cons d ds => rwa [length_splitLines_of_not_isLineEnd hc (List.cons_ne_nil d ds)]

/-- With `d` behind it, the character `c` ends no line that a line feed does not end. -/
def EndsByFeed (c d : Char) : Prop :=
  isLineEnd c = true → c = '\n' ∨ c = '\r' ∧ d = '\n'

lemma isChain_feed_cons {cs : Text} : ('\n' :: cs).IsChain EndsByFeed ↔ cs.IsChain EndsByFeed := by
  rw [List.isChain_cons]
  exact and_iff_right fun d _ _ => Or.inl rfl

-- A line end that is no line feed makes one line more than there are line feeds.
lemma length_splitLines_eq_count_iff {t : Text} (h : t.getLast? = some '\n') :
    t.splitLines.length = t.count '\n' ↔ t.IsChain EndsByFeed := by
  induction t using lineInduction with
  | nil => cases h
  | crlf cs ih =>
    have hpair : EndsByFeed '\r' '\n' := fun _ => Or.inr ⟨rfl, rfl⟩
    rw [splitLines_crlf, List.length_cons, List.count_cons_of_ne (by decide), List.count_cons_self,
      Nat.add_right_cancel_iff, List.isChain_cons_cons, isChain_feed_cons, and_iff_right hpair]
    cases cs with
    | nil => simp [splitLines]
    | cons d ds => exact ih (by simpa using h)
  | ending c cs hc hcrlf ih =>
    rw [splitLines_of_isLineEnd hc hcrlf, List.length_cons]
    by_cases hfeed : c = '\n'
    · subst hfeed
      rw [List.count_cons_self, Nat.add_right_cancel_iff, isChain_feed_cons]
      cases cs with
      | nil => simp [splitLines]
      | cons d ds => exact ih (by simpa using h)
    · rw [List.count_cons_of_ne hfeed]
      cases cs with
      | nil => exact absurd (Option.some.inj h) hfeed
      | cons d ds =>
        have hle := count_le_length_splitLines (d :: ds)
        refine iff_of_false (by omega) fun hchain => ?_
        rcases (List.isChain_cons_cons.mp hchain).1 hc with hc' | ⟨hcr, hd⟩
        · exact hfeed hc'
        · exact hcrlf hcr (congrArg some hd)
  | other c cs hc ih =>
    have hfeed := ne_feed_of_not_isLineEnd hc
    cases cs with
    | nil => exact absurd (Option.some.inj h) hfeed
    | cons d ds =>
      rw [length_splitLines_of_not_isLineEnd hc (List.cons_ne_nil d ds),
        List.count_cons_of_ne hfeed, ih (by simpa using h), List.isChain_cons_cons]
      exact (and_iff_right fun hend => absurd hend (by simp [hc])).symm

end LineShell.Text
