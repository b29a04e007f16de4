import LineShell.Proofs.Lexeme.Interpolation
import Mathlib.Data.List.SplitBy

/-! Quotes keep values in their place. An expanded line is scanned again, but what was quoted in the
line is read as one lexeme with the same quotes, whatever the values between double quotes hold; only
the runs between quoted lexemes are cut anew. -/

namespace LineShell

lemma IsQuote.isSpecial {q : Char} (h : IsQuote q) : isSpecial q := by
  rcases h with rfl | rfl <;> rfl

namespace Lexeme

def isEnclosed (l : Lexeme) : Bool :=
  l.text.head?.any fun c => c == '\'' || c == '"'

def enclosed (vars : Bindings) (l : Lexeme) : Lexeme :=
  if l.kind = .double then ⟨.double, '"' :: l.value.interpolate vars false ++ ['"']⟩ else l

def parts (ls : List Lexeme) : List (List Lexeme) :=
  ls.splitBy fun l m => !l.isEnclosed && !m.isEnclosed

def reread (vars : Bindings) (p : List Lexeme) : List Lexeme :=
  if p.any isEnclosed then p.map (enclosed vars) else ((join p).expand vars).lexemes

/-- No value that is put outside quotes holds a quote, and no value that is put between double quotes
holds a double quote. -/
structure Contained (vars : Bindings) (ls : List Lexeme) : Prop where
  outside : ∀ l ∈ ls, l.kind = .ref →
    '\'' ∉ (vars l.name).getD [] ∧ '"' ∉ (vars l.name).getD []
  inside : ∀ l ∈ ls, l.kind = .double →
    ∀ r ∈ l.value.references, r.kind = .ref → '"' ∉ (vars r.name).getD []

section

variable {strict : Bool} {l : Lexeme} {rest rest' : Text}

lemma isEnclosed_eq_false_iff :
    l.isEnclosed = false ↔ ∀ q t, l.text = q :: t → ¬ IsQuote q := by
  cases ht : l.text with
  | nil => simp [isEnclosed, ht]
  | cons c t => simp [isEnclosed, ht, IsQuote]

lemma not_isEnclosed_of_not_isQuote (h : ∀ c ∈ l.text, ¬ IsQuote c) : l.isEnclosed = false :=
  isEnclosed_eq_false_iff.mpr fun q t ht => h q (by simp [ht])

lemma Munch.quote_cases (h : Munch strict l rest) :
    (∀ c ∈ l.text, ¬ IsQuote c) ∨
    (∃ body, '\'' ∉ body ∧ l = ⟨.single, '\'' :: body ++ ['\'']⟩) ∨
    (∃ body, '"' ∉ body ∧ l = ⟨.double, '"' :: body ++ ['"']⟩) ∨
    ∃ q body, IsQuote q ∧ q ∉ body ∧ l = ⟨.plain, q :: body⟩ ∧ rest = [] := by
  have hname : ∀ n : Text, (∀ c ∈ n, isNameChar c) → ∀ c ∈ n, ¬ IsQuote c := by
    intro n hn c hc hq
    simpa [not_isNameChar_of_isSpecial hq.isSpecial] using hn c hc
  have hbraces : ∀ c ∈ ['$', '{', '}'], ¬ IsQuote c := by simp [IsQuote]
  cases h with
  | space _ hb =>
    refine Or.inl fun c hc hq => ?_
    simpa [not_isBlank_of_isSpecial hq.isSpecial] using hb c hc
  | pipe | separator | sigil => exact Or.inl (by simp [IsQuote])
  | single hb => exact Or.inr (Or.inl ⟨_, hb, rfl⟩)
  | double hb => exact Or.inr (Or.inr (Or.inl ⟨_, hb, rfl⟩))
  | named hn => exact Or.inl (List.forall_mem_cons.mpr ⟨hbraces _ (by simp), hname _ hn.chars⟩)
  | braced hn =>
    refine Or.inl fun c hc => ?_
    simp only [List.mem_append] at hc
    rcases hc with (hc | hc) | hc
    · exact hbraces c (List.mem_append_left ['}'] hc)
    · exact hname _ hn.chars c hc
    · exact hbraces c (List.mem_append_right ['$', '{'] hc)
  | plain _ hp =>
    refine Or.inl fun c hc hq => ?_
    simpa [not_isPlain_of_isSpecial hq.isSpecial] using hp c hc
  | brace hn =>
    refine Or.inl fun c hc => ?_
    rcases List.mem_append.mp hc with hc | hc
    · exact hbraces c (List.mem_append_left ['}'] hc)
    · exact hname _ hn c hc
  | unclosed _ hq hb => exact Or.inr (Or.inr (Or.inr ⟨_, _, hq, hb, rfl, rfl⟩))

lemma Munch.not_isQuote (h : Munch strict l rest) (hl : l.isEnclosed = false) :
    ∀ c ∈ l.text, ¬ IsQuote c := by
  have hhead := isEnclosed_eq_false_iff.mp hl
  rcases h.quote_cases with hfree | ⟨body, -, rfl⟩ | ⟨body, -, rfl⟩ | ⟨q, body, hq, -, rfl, -⟩
  · exact hfree
  · exact absurd (Or.inl rfl) (hhead _ _ rfl)
  · exact absurd (Or.inr rfl) (hhead _ _ rfl)
  · exact absurd hq (hhead _ _ rfl)

lemma any_head_curtail {p : Char → Bool} (hr : rest' = [] ∨ rest'.head? = rest.head?)
    (h : rest.head?.any p = false) : rest'.head?.any p = false := by
  rcases hr with rfl | hr
  · rfl
  · rwa [hr]

-- A longest lexeme stays one where the text behind it is cut short.
lemma Munch.curtail (h : Munch strict l rest) (hl : l.isEnclosed = false)
    (hr : rest' = [] ∨ rest'.head? = rest.head?) : Munch true l rest' := by
  have hhead := isEnclosed_eq_false_iff.mp hl
  cases h with
  | space hne hb hrest => exact .space hne hb (any_head_curtail hr hrest)
  | pipe => exact .pipe
  | separator => exact .separator
  | single hb => exact .single hb
  | double hb => exact .double hb
  | named hn hrest => exact .named hn (any_head_curtail hr hrest)
  | braced hn => exact .braced hn
  | plain hne hp hrest => exact .plain hne hp (any_head_curtail hr hrest)
  | sigil hs hb =>
    refine .sigil (any_head_curtail hr hs) ?_
    rcases hr with rfl | hr
    · simp
    · rwa [hr]
  | brace hn hrest hnot =>
    refine .brace hn (any_head_curtail hr hrest) fun ⟨hname, hclose⟩ => ?_
    rcases hr with rfl | hr
    · simp at hclose
    · exact hnot ⟨hname, hr ▸ hclose⟩
  | unclosed _ hq => exact absurd hq (hhead _ _ rfl)

end

section

variable {strict : Bool} {t : Text} {ls ms : List Lexeme}

lemma Munches.exists_munch (h : Munches strict t ls) {l : Lexeme} (hl : l ∈ ls) :
    ∃ rest, Munch strict l rest := by
  induction h with
  | nil => simp at hl
  | cons hm _ ih =>
    rcases List.mem_cons.mp hl with rfl | hl
    · exact ⟨_, hm⟩
    · exact ih hl

lemma Munches.of_append (h : Munches strict t (ls ++ ms)) : Munches strict (Lexeme.join ms) ms := by
  induction ls generalizing t with
  | nil =>
    have hjoin := h.join
    rw [List.nil_append] at hjoin h
    rwa [hjoin]
  | cons l ls ih =>
    cases h with
    | cons _ hrest => exact ih hrest

lemma Munches.of_run (h : Munches strict t (ls ++ ms)) (hls : ∀ l ∈ ls, l.isEnclosed = false) :
    Munches true (Lexeme.join ls) ls := by
  induction ls generalizing t with
  | nil => exact .nil
  | cons l ls ih =>
    obtain ⟨hl, hrun⟩ := List.forall_mem_cons.mp hls
    cases h with
    | @cons _ rest _ hm hrest =>
      have hjoin : rest = Lexeme.join ls ++ Lexeme.join ms := by
        rw [← join_append]
        exact hrest.join.symm
      have hhead : Lexeme.join ls = [] ∨ (Lexeme.join ls).head? = rest.head? := by
        rw [hjoin]
        cases Lexeme.join ls with
        | nil => exact Or.inl rfl
        | cons c cs => exact Or.inr rfl
      exact .cons (hm.curtail hl hhead) (ih hrest hrun)

lemma Munches.strict_of_not_isQuote (h : Munches strict t ls) (ht : ∀ c ∈ t, ¬ IsQuote c) :
    Munches true t ls := by
  induction h with
  | nil => exact .nil
  | @cons l rest ls hl _ ih =>
    have hq : l.isEnclosed = false :=
      not_isEnclosed_of_not_isQuote fun c hc => ht c (List.mem_append_left _ hc)
    exact .cons (hl.curtail hq (Or.inr rfl)) (ih fun c hc => ht c (List.mem_append_right _ hc))

end

inductive Parted : List (List Lexeme) → Prop
  | nil : Parted []
  | quoted {l : Lexeme} {ps : List (List Lexeme)} : l.isEnclosed → Parted ps → Parted ([l] :: ps)
  | run {p : List Lexeme} {ps : List (List Lexeme)} : p ≠ [] → (∀ l ∈ p, l.isEnclosed = false) →
      (∀ q qs, ps = q :: qs → ∃ l, q = [l] ∧ l.isEnclosed) → Parted ps → Parted (p :: ps)

lemma chain_cases {p : List Lexeme} (hne : p ≠ [])
    (h : p.IsChain fun l m => (!l.isEnclosed && !m.isEnclosed) = true) :
    (∃ l, p = [l] ∧ l.isEnclosed) ∨ ∀ l ∈ p, l.isEnclosed = false := by
  induction p with
  | nil => exact absurd rfl hne
  | cons l p ih =>
    cases p with
    | nil =>
      by_cases hl : l.isEnclosed
      · exact Or.inl ⟨l, rfl, hl⟩
      · exact Or.inr (by simpa using hl)
    | cons m p =>
      obtain ⟨hlm, hchain⟩ := List.isChain_cons_cons.mp h
      simp only [Bool.and_eq_true, Bool.not_eq_true'] at hlm
      rcases ih (by simp) hchain with ⟨k, hk, henclosed⟩ | hall
      · obtain ⟨rfl, -⟩ := List.cons.inj hk
        rw [hlm.2] at henclosed
        exact absurd henclosed Bool.false_ne_true
      · exact Or.inr (List.forall_mem_cons.mpr ⟨hlm.1, hall⟩)

lemma mem_parts_cases {ls p : List Lexeme} (hp : p ∈ parts ls) :
    (∃ l, p = [l] ∧ l.isEnclosed) ∨ ∀ l ∈ p, l.isEnclosed = false :=
  chain_cases (List.ne_nil_of_mem_splitBy hp) (List.isChain_of_mem_splitBy hp)

lemma parted_parts (ls : List Lexeme) : Parted (parts ls) := by
  have hcases := fun p (hp : p ∈ parts ls) => mem_parts_cases hp
  have hne := fun p (hp : p ∈ parts ls) => List.ne_nil_of_mem_splitBy hp
  have hseam := List.isChain_getLast_head_splitBy (fun l m => !l.isEnclosed && !m.isEnclosed) ls
  change (parts ls).IsChain _ at hseam
  generalize parts ls = ps at hcases hne hseam
  induction ps with
  | nil => exact .nil
  | cons p ps ih =>
    obtain ⟨hp, hps⟩ := List.forall_mem_cons.mp hcases
    obtain ⟨hpne, hpsne⟩ := List.forall_mem_cons.mp hne
    have hrest := ih hps hpsne hseam.tail
    rcases hp with ⟨l, rfl, hl⟩ | hrun
    · exact .quoted hl hrest
    · refine .run hpne hrun ?_ hrest
      rintro q qs rfl
      refine (hps q (by simp)).resolve_right fun hq => ?_
      -- Two runs in a row would be one.
      obtain ⟨hp', hq', hapart⟩ := (List.isChain_cons_cons.mp hseam).1
      rw [hrun _ (List.getLast_mem hp'), hq _ (List.head_mem hq')] at hapart
      exact absurd hapart (by decide)

section

variable {vars : Bindings} {p : List Lexeme}

lemma substitute_of_not_isEnclosed {strict : Bool} {l : Lexeme} {rest : Text}
    (h : Munch strict l rest) (hl : l.isEnclosed = false) : l.substitute vars = l.resolve vars := by
  have hhead := isEnclosed_eq_false_iff.mp hl
  cases h with
  | double => exact absurd (Or.inr rfl) (hhead _ _ rfl)
  | _ => rfl

lemma expand_of_munches {strict : Bool} (h : Munches strict (join p) p) :
    (join p).expand vars = join (p.map (substitute vars)) := by
  rw [Text.expand, Text.lexemes_of_munches h]

lemma expand_run (h : Munches true (join p) p) (hp : ∀ l ∈ p, l.isEnclosed = false) :
    (join p).expand vars = join (p.map (resolve vars)) := by
  rw [expand_of_munches h]
  congr 1
  refine List.map_congr_left fun l hl => ?_
  obtain ⟨rest, hm⟩ := h.exists_munch hl
  exact substitute_of_not_isEnclosed hm (hp l hl)

lemma not_isQuote_expand_run (h : Munches true (join p) p) (hp : ∀ l ∈ p, l.isEnclosed = false)
    (hc : Contained vars p) : ∀ c ∈ (join p).expand vars, ¬ IsQuote c := by
  intro c hmem hq
  rw [expand_run h hp] at hmem
  obtain ⟨_, hr, hmem⟩ := List.mem_flatMap.mp hmem
  obtain ⟨l, hl, rfl⟩ := List.mem_map.mp hr
  by_cases hk : l.kind = .ref
  · rw [resolve_of_ref hk] at hmem
    obtain ⟨hsingle, hdouble⟩ := hc.outside l hl hk
    rcases hq with rfl | rfl
    · exact hsingle hmem
    · exact hdouble hmem
  · rw [resolve_of_ne hk] at hmem
    obtain ⟨rest, hm⟩ := h.exists_munch hl
    exact hm.not_isQuote (hp l hl) c hmem hq

lemma reread_quoted {l : Lexeme} (h : l.isEnclosed) : reread vars [l] = [l.enclosed vars] := by
  simp [reread, h]

lemma reread_run (h : ∀ l ∈ p, l.isEnclosed = false) :
    reread vars p = ((join p).expand vars).lexemes := by
  rw [reread, if_neg]
  simpa using h

end

lemma enclosed_of_ne {l : Lexeme} (h : l.kind ≠ .double) (vars : Bindings) :
    l.enclosed vars = l :=
  if_neg h

lemma exists_quote_enclosed {l : Lexeme} (h : l.isEnclosed) (vars : Bindings) :
    ∃ q t, IsQuote q ∧ (l.enclosed vars).text = q :: t := by
  by_cases hk : l.kind = .double
  · exact ⟨'"', l.value.interpolate vars false ++ ['"'], Or.inr rfl, by simp [enclosed, hk]⟩
  · rw [enclosed_of_ne hk]
    by_contra hnone
    have hnot : l.isEnclosed = false :=
      isEnclosed_eq_false_iff.mpr fun q t ht hq => hnone ⟨q, t, hq, ht⟩
    rw [hnot] at h
    exact Bool.false_ne_true h

section

variable {strict : Bool} {l : Lexeme} {rest rest' : Text}

lemma Munch.enclosed_cases (h : Munch strict l rest) (hl : l.isEnclosed) :
    (∃ body, '\'' ∉ body ∧ l = ⟨.single, '\'' :: body ++ ['\'']⟩) ∨
    (∃ body, '"' ∉ body ∧ l = ⟨.double, '"' :: body ++ ['"']⟩) ∨
    ∃ q body, IsQuote q ∧ q ∉ body ∧ l = ⟨.plain, q :: body⟩ ∧ rest = [] := by
  refine h.quote_cases.resolve_left fun hfree => ?_
  rw [not_isEnclosed_of_not_isQuote hfree] at hl
  exact Bool.false_ne_true hl

lemma Munch.substitute_eq_enclosed (h : Munch strict l rest) (hl : l.isEnclosed)
    (vars : Bindings) : l.substitute vars = l.enclosed vars := by
  rcases h.enclosed_cases hl with ⟨body, -, rfl⟩ | ⟨body, -, rfl⟩ | ⟨q, body, -, -, rfl, -⟩
  · rfl
  · simp [substitute, Lexeme.enclosed, Text.fill_eq_interpolate]
  · rfl

-- What opens with a quote keeps it: after expansion it is again a longest lexeme.
lemma Munch.enclosed {vars : Bindings} (h : Munch false l rest) (hl : l.isEnclosed)
    (hc : Contained vars [l]) (hrest : rest = [] → rest' = []) :
    Munch false (l.enclosed vars) rest' := by
  rcases h.enclosed_cases hl with ⟨body, hb, rfl⟩ | ⟨body, hb, rfl⟩ | ⟨q, body, hq, hb, rfl, hnil⟩
  · rw [enclosed_of_ne (by simp)]
    exact .single hb
  · have hvalue : value ⟨.double, '"' :: body ++ ['"']⟩ = body := by simp [value, inner]
    refine .double fun hmem => ?_
    rw [← Text.fill_eq_interpolate] at hmem
    rcases mem_fill hmem with hin | ⟨r, hr, hk, hin⟩
    · exact hb (hvalue ▸ hin)
    · exact hc.inside _ (by simp) rfl r hr hk hin
  · rw [enclosed_of_ne (by simp), hrest hnil]
    exact .unclosed rfl hq hb

end

lemma Contained.mono {vars : Bindings} {ls ms : List Lexeme} (h : Contained vars ls)
    (hsub : ∀ l ∈ ms, l ∈ ls) : Contained vars ms :=
  ⟨fun l hl => h.outside l (hsub l hl), fun l hl => h.inside l (hsub l hl)⟩

lemma Munches.eq_nil {strict : Bool} {ls : List Lexeme} (h : Munches strict [] ls) : ls = [] := by
  have hjoin := h.join
  cases ls with
  | nil => rfl
  | cons l ls =>
    obtain ⟨rest, hm⟩ := h.exists_munch (List.mem_cons_self)
    rw [join_cons] at hjoin
    exact absurd (List.append_eq_nil_iff.mp hjoin).1 hm.text_ne_nil

-- By induction on the parts: a quoted lexeme is read again as it stands, and a run is scanned apart
-- from what follows because its expansion leaves no quote open.
lemma munches_reread {vars : Bindings} {t : Text} {ps : List (List Lexeme)} (hps : Parted ps)
    (h : Munches false t ps.flatten) (hc : Contained vars ps.flatten) :
    Munches false (join (ps.flatten.map (substitute vars))) (ps.flatMap (reread vars)) := by
  induction hps generalizing t with
  | nil => exact .nil
  | @quoted l ps hl _ ih =>
    rw [List.flatten_cons] at h hc
    have hrest := ih h.of_append (hc.mono fun m hm => List.mem_append_right _ hm)
    cases h with
    | cons hm hms =>
      rw [List.flatMap_cons, reread_quoted hl, List.flatten_cons, List.map_append, List.map_singleton,
        hm.substitute_eq_enclosed hl]
      refine .cons (hm.enclosed hl (hc.mono fun m hm => List.mem_append_left _ hm) ?_) hrest
      rintro rfl
      have hnil : ps.flatten = [] := hms.eq_nil
      rw [hnil]
      rfl
  | @run p ps hne hp hnext hps ih =>
    rw [List.flatten_cons] at h hc
    have hrest := ih h.of_append (hc.mono fun m hm => List.mem_append_right _ hm)
    have hrun := h.of_run hp
    have hfree := not_isQuote_expand_run hrun hp (hc.mono fun m hm => List.mem_append_left _ hm)
    have hscan := (Text.munches_lexemes _).strict_of_not_isQuote hfree
    rw [List.flatMap_cons, reread_run hp, List.flatten_cons, List.map_append, join_append,
      ← expand_of_munches hrun]
    cases ps with
    | nil =>
      simp only [List.flatten_nil, List.map_nil, join_nil, List.append_nil, List.flatMap_nil]
      exact hscan.permissive
    | cons q qs =>
      obtain ⟨l, rfl, hl⟩ := hnext q qs rfl
      obtain ⟨_, hm⟩ := h.exists_munch (l := l) (by simp)
      obtain ⟨c, body, hc, htext⟩ := exists_quote_enclosed hl vars
      have hopen : join (([l] :: qs).flatten.map (substitute vars)) =
          c :: (body ++ join (qs.flatten.map (substitute vars))) := by
        simp [hm.substitute_eq_enclosed hl, htext]
      rw [hopen] at hrest ⊢
      exact hscan.append_special hc.isSpecial hrest

def AgreeOutside (vars vars' : Bindings) (ls : List Lexeme) : Prop :=
  ∀ l ∈ ls, l.kind = .ref → (vars l.name).getD [] = (vars' l.name).getD []

def Alike (l m : Lexeme) : Prop :=
  l = m ∨ l.kind = .double ∧ m.kind = .double

def SameToken (l m : Lexeme) : Prop :=
  l = m ∨ l.kind = .plain ∧ m.kind = .plain

lemma Alike.isWord_eq {l m : Lexeme} (h : Alike l m) : l.isWord = m.isWord := by
  rcases h with rfl | ⟨hl, hm⟩
  · rfl
  · simp [isWord, hl, hm]

lemma absorb_alike {l m : Lexeme} {ls ms : List Lexeme} (h : Alike l m)
    (hls : List.Forall₂ SameToken ls ms) :
    List.Forall₂ SameToken (absorb l ls) (absorb m ms) := by
  have hword := h.isWord_eq
  cases hw : m.isWord with
  | false =>
    rw [hw] at hword
    obtain rfl : l = m := h.resolve_right fun hdouble => by simp [isWord, hdouble.2] at hw
    rw [absorb_of_not_isWord hw, absorb_of_not_isWord hw]
    exact .cons (Or.inl rfl) hls
  | true =>
    rw [hw] at hword
    cases hls with
    | nil =>
      simp only [absorb, hw, hword, if_true]
      exact .cons (Or.inr ⟨rfl, rfl⟩) .nil
    | @cons j k js ks hjk hks =>
      by_cases hj : j.kind = .plain
      · have hk : k.kind = .plain := by
          rcases hjk with rfl | ⟨-, hk⟩
          · exact hj
          · exact hk
        rw [absorb_plain hword hj, absorb_plain hw hk]
        exact .cons (Or.inr ⟨rfl, rfl⟩) hks
      · obtain rfl : j = k := hjk.resolve_right fun hplain => hj hplain.1
        rw [absorb_of_ne_plain hword hj, absorb_of_ne_plain hw hj]
        exact .cons (Or.inr ⟨rfl, rfl⟩) (.cons (Or.inl rfl) hks)

lemma fuse_alike {ls ms : List Lexeme} (h : List.Forall₂ Alike ls ms) :
    List.Forall₂ SameToken (fuse ls) (fuse ms) := by
  induction h with
  | nil => exact .nil
  | cons hl _ ih => exact absorb_alike hl ih

lemma reread_alike {vars vars' : Bindings} {p : List Lexeme} {ls : List Lexeme} {line : Text}
    (h : Munches false line ls) (hp : p ∈ parts ls) (ha : AgreeOutside vars vars' ls) :
    List.Forall₂ Alike (reread vars p) (reread vars' p) := by
  rcases mem_parts_cases hp with ⟨l, rfl, hl⟩ | hrun
  · rw [reread_quoted hl, reread_quoted hl]
    refine .cons ?_ .nil
    by_cases hk : l.kind = .double
    · exact Or.inr (by simp [enclosed, hk])
    · exact Or.inl (by rw [enclosed_of_ne hk, enclosed_of_ne hk])
  · obtain ⟨before, after, hsplit⟩ := List.append_of_mem hp
    have hflat : ls = before.flatten ++ (p ++ after.flatten) := by
      rw [← List.flatten_cons, ← List.flatten_append, ← hsplit, parts, List.flatten_splitBy]
    rw [hflat] at h
    have hmunches := h.of_append.of_run hrun
    have hsame : p.map (resolve vars) = p.map (resolve vars') := by
      refine List.map_congr_left fun l hl => ?_
      by_cases hk : l.kind = .ref
      · rw [resolve_of_ref hk, resolve_of_ref hk, ha l (by simp [hflat, hl]) hk]
      · rw [resolve_of_ne hk, resolve_of_ne hk]
    rw [reread_run hrun, reread_run hrun, expand_run hmunches hrun, expand_run hmunches hrun, hsame]
    exact List.forall₂_same.mpr fun l _ => Or.inl rfl

end Lexeme

namespace Text

open Lexeme

lemma lexemes_expand {vars : Bindings} {line : Text} (h : Contained vars line.lexemes) :
    (line.expand vars).lexemes = (parts line.lexemes).flatMap (reread vars) := by
  have hflat : (parts line.lexemes).flatten = line.lexemes := List.flatten_splitBy _ _
  have hmunches := line.munches_lexemes
  rw [← hflat] at h hmunches
  have hread := munches_reread (parted_parts _) hmunches h
  rw [hflat] at hread
  exact lexemes_of_munches hread

theorem lexemes_expand_isolated {vars : Bindings} {line : Text}
    (h : Contained vars line.lexemes) :
    (line.expand vars).lexemes = (parts line.lexemes).flatMap (reread vars) ∧
    ∀ vars', Contained vars' line.lexemes → AgreeOutside vars vars' line.lexemes →
      List.Forall₂ Alike (line.expand vars).lexemes (line.expand vars').lexemes ∧
      List.Forall₂ SameToken (line.tokens vars) (line.tokens vars') := by
  refine ⟨lexemes_expand h, fun vars' h' ha => ?_⟩
  have hlexemes : List.Forall₂ Alike (line.expand vars).lexemes (line.expand vars').lexemes := by
    rw [lexemes_expand h, lexemes_expand h', List.flatMap_def, List.flatMap_def]
    refine List.rel_flatten ?_
    rw [List.forall₂_map_left_iff, List.forall₂_map_right_iff]
    exact List.forall₂_same.mpr fun p hp => reread_alike line.munches_lexemes hp ha
  exact ⟨hlexemes, fuse_alike hlexemes⟩

-- Between double quotes a pipe, a separator, a sigil and a single quote stay in their word, and the
-- quote that is open behind them is not closed; outside quotes a separator does count.
theorem lexemes_expand_isolated_pipe :
    Lexeme.Contained (fun n => [(['x'], "a'|;$y b".toList), (['y'], "p;q".toList)].lookup n)
      (lexemes "echo $y\"$x\"|cat 'c".toList) ∧
    lexemes (expand (fun n => [(['x'], "a'|;$y b".toList), (['y'], "p;q".toList)].lookup n)
      "echo $y\"$x\"|cat 'c".toList) =
      [⟨.plain, "echo".toList⟩, ⟨.space, [' ']⟩, ⟨.plain, ['p']⟩, ⟨.separator, [';']⟩, ⟨.plain, ['q']⟩,
        ⟨.double, "\"a'|;$y b\"".toList⟩, ⟨.pipe, ['|']⟩, ⟨.plain, "cat".toList⟩, ⟨.space, [' ']⟩,
        ⟨.plain, "'c".toList⟩] ∧
    List.Forall₂ SameToken
      (tokens (fun n => [(['x'], "a'|;$y b".toList), (['y'], "p;q".toList)].lookup n)
        "echo $y\"$x\"|cat 'c".toList)
      (tokens (fun n => [(['y'], "p;q".toList)].lookup n) "echo $y\"$x\"|cat 'c".toList) := by
  have h : Lexeme.Contained (fun n => [(['x'], "a'|;$y b".toList), (['y'], "p;q".toList)].lookup n)
      (lexemes "echo $y\"$x\"|cat 'c".toList) := ⟨by decide +kernel, by decide +kernel⟩
  have h' : Lexeme.Contained (fun n => [(['y'], "p;q".toList)].lookup n)
      (lexemes "echo $y\"$x\"|cat 'c".toList) := ⟨by decide +kernel, by decide +kernel⟩
  have ha : AgreeOutside (fun n => [(['x'], "a'|;$y b".toList), (['y'], "p;q".toList)].lookup n)
      (fun n => [(['y'], "p;q".toList)].lookup n) (lexemes "echo $y\"$x\"|cat 'c".toList) := by
    unfold AgreeOutside
    decide +kernel
  refine ⟨h, (lexemes_expand_isolated h).1.trans (by decide +kernel), ?_⟩
  exact ((lexemes_expand_isolated h).2 _ h' ha).2

end Text

end LineShell
