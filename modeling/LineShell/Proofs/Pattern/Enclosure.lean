import LineShell.Proofs.Pattern.Flags
import LineShell.Proofs.Pattern.Locality

namespace LineShell.Pattern

namespace Token

def wordOpening : List Token :=
  [.escape 'b', .char '(', .char '?', .char ':']

def wordClosing : List Token :=
  [.char ')', .escape 'b']

lemma ofText_cons_of_ne {c : Char} (hc : c ≠ '\\') (cs : Text) :
    ofText (c :: cs) = .char c :: ofText cs := by
  rw [ofText]
  · exact fun h _ => hc h
  · exact fun _ _ h _ => hc h

lemma ne_backslash_of_overlap {c : Char} {cs : Text} (hsingle : c = '\\' → cs = [] → False)
    (hpair : ∀ d ds, c = '\\' → cs = d :: ds → False) : c ≠ '\\' := by
  intro hc
  cases cs with
  | nil => exact hsingle hc rfl
  | cons d ds => exact hpair d ds hc rfl

lemma ofText_wordClosing {p : Text} (h : .dangling ∉ ofText p) :
    ofText (p ++ ")\\b".toList) = ofText p ++ wordClosing := by
  fun_induction ofText p with
  | case1 => rfl
  | case2 => simp at h
  | case3 c cs ih =>
    have hcs : .dangling ∉ ofText cs := fun hmem => h (List.mem_cons_of_mem _ hmem)
    exact congrArg (Token.escape c :: ·) (ih hcs)
  | case4 c cs hsingle hpair ih =>
    have hcs : .dangling ∉ ofText cs := fun hmem => h (List.mem_cons_of_mem _ hmem)
    rw [List.cons_append, ofText_cons_of_ne (ne_backslash_of_overlap hsingle hpair), ih hcs]
    rfl

lemma split_wordClosing {p : Text} {ts us : List Token}
    (h : ofText (p ++ ")\\b".toList) = ts ++ .char ')' :: us) :
    ofText p = ts ∧ us = [.escape 'b'] ∨ ∃ vs, ofText p = ts ++ .char ')' :: vs := by
  fun_induction ofText p generalizing ts with
  | case1 =>
    have h : [.char ')', .escape 'b'] = ts ++ .char ')' :: us := h
    rcases List.cons_eq_append_iff.mp h with ⟨rfl, hus⟩ | ⟨ts, -, hts⟩
    · exact Or.inl ⟨rfl, (List.cons.inj hus).2⟩
    · have hmem : Token.char ')' ∈ [Token.escape 'b'] := by simp [hts]
      simp at hmem
  | case2 =>
    have h : [.escape ')', .escape 'b'] = ts ++ .char ')' :: us := h
    have hmem : Token.char ')' ∈ [Token.escape ')', Token.escape 'b'] := by simp [h]
    simp at hmem
  | case3 c cs ih =>
    have h : .escape c :: ofText (cs ++ ")\\b".toList) = ts ++ .char ')' :: us := h
    rcases List.cons_eq_append_iff.mp h with ⟨-, hus⟩ | ⟨ts, rfl, hts⟩
    · cases hus
    · refine (ih hts).imp (fun ⟨hcs, hus⟩ => ⟨by rw [hcs], hus⟩) ?_
      rintro ⟨vs, hcs⟩
      exact ⟨vs, by rw [hcs]; rfl⟩
  | case4 c cs hsingle hpair ih =>
    rw [List.cons_append, ofText_cons_of_ne (ne_backslash_of_overlap hsingle hpair)] at h
    rcases List.cons_eq_append_iff.mp h with ⟨rfl, hus⟩ | ⟨ts, rfl, hts⟩
    · exact Or.inr ⟨ofText cs, by rw [← (List.cons.inj hus).1]; rfl⟩
    · refine (ih hts).imp (fun ⟨hcs, hus⟩ => ⟨by rw [hcs], hus⟩) ?_
      rintro ⟨vs, hcs⟩
      exact ⟨vs, by rw [hcs]; rfl⟩

end Token

namespace Reading

def initialFlags (ignoreCase : Bool) : List Flag :=
  if ignoreCase then [.ignoreCase] else []

def initial (known : Text → Option Char) (ignoreCase : Bool) (ts : List Token) : Reader :=
  { tokens := ts, flags := initialFlags ignoreCase, charNames := known }

variable {known : Text → Option Char}

def choice (ignoreCase whole : Bool) (fuel : Nat) : Reading (List Node) :=
  alternatives (sequence fuel []) whole (.ofFlags (initialFlags ignoreCase)) false

instance (ignoreCase : Bool) (fuel : Nat) : Steady (choice ignoreCase false fuel) :=
  steady_alternatives (fun _ _ => steady_sequence fuel (Or.inl rfl) _ _) _ _

lemma contains_verbose (ignoreCase : Bool) : (initialFlags ignoreCase).contains .verbose = false := by
  cases ignoreCase <;> rfl

lemma alphabet_initialFlags (ignoreCase : Bool) :
    ((initialFlags ignoreCase).contains .ascii && (initialFlags ignoreCase).contains .unicode) =
      false := by
  cases ignoreCase <;> rfl

lemma choice_initial (known : Text → Option Char) (ignoreCase : Bool) (ts : List Token) :
    choice ignoreCase true (ts.length + 1) =
      alternatives (sequence ((initial known ignoreCase ts).tokens.length + 1) []) true
        (.ofFlags (initial known ignoreCase ts).flags)
        ((initial known ignoreCase ts).flags.contains .verbose) := by
  rw [choice, ← contains_verbose ignoreCase]
  rfl

structure Complete (r : Reader) : Prop where
  tokens : r.tokens = []
  conditions : ∀ g ∈ r.conditions.map Prod.fst, g ≤ r.groups.length

lemma choice_of_choice {ignoreCase whole : Bool} {k pos : Nat} {ts left right : List Token}
    {body : List Node} {s : Reader} (whole' : Bool) {k' : Nat} (pos' : Nat)
    (hk : ts.length < k) (hk' : ts.length < k')
    (hleft : ∀ t ∈ left.head?, t = .char ')') (hright : ∀ t ∈ right.head?, t = .char ')')
    (h : choice ignoreCase whole k { initial known ignoreCase (ts ++ left) with pos := pos } =
      .ok (body, s))
    (hs : s.tokens = left) (hflags : s.flags = initialFlags ignoreCase) :
    ∃ s', choice ignoreCase whole' k' { initial known ignoreCase (ts ++ right) with pos := pos' } =
        .ok (body, s') ∧
      s'.tokens = right ∧ s'.flags = initialFlags ignoreCase ∧ s'.groups = s.groups ∧
        s'.conditions.map Prod.fst = s.conditions.map Prod.fst := by
  let c : Seam := ⟨initialFlags ignoreCase, left, right, hleft, hright⟩
  have hfollows : c.Follows false (ts.length + 1) Eq (choice ignoreCase whole k)
      (choice ignoreCase whole' k') := by
    have hchoice := c.follows_choice whole whole' hk hk'
    rwa [contains_verbose] at hchoice
  have halong : c.Along (ts.length + 1) { initial known ignoreCase (ts ++ left) with pos := pos }
      { initial known ignoreCase (ts ++ right) with pos := pos' } :=
    ⟨⟨ts, Nat.lt_succ_self _, rfl, rfl⟩, rfl, rfl, rfl, rfl, rfl, rfl, rfl⟩
  rcases hfollows.step halong h with hlost | ⟨_, s', hs', rfl, halong'⟩
  · rcases hlost with hlost | hlost | ⟨hlenient, -⟩
    · exact (hlost (by rw [hs])).elim
    · rw [hflags] at hlost
      exact (lt_irrefl _ hlost).elim
    · cases hlenient
  · obtain ⟨us, -, hus, hus'⟩ := halong'.tokens
    obtain rfl : us = [] := by simpa [hs, c] using hus
    exact ⟨s', hs', hus', halong'.flags', halong'.groups, halong'.conditions⟩

lemma checkNext_of_ne {r : Reader} (h : r.tokens.head? ≠ some .dangling) :
    checkNext r = .ok ((), r) := by
  change (if r.tokens.head? = some .dangling then failAt .danglingEscape r.pos else pure () :
    Reading Unit) r = _
  rw [if_neg h]
  rfl

lemma ne_of_checkNext {r s : Reader} {u : Unit} (h : checkNext r = .ok (u, s)) :
    r.tokens.head? ≠ some .dangling ∧ s = r := by
  change (if r.tokens.head? = some .dangling then failAt .danglingEscape r.pos else pure () :
    Reading Unit) r = _ at h
  split at h
  · cases h
  · rename_i hne
    cases h
    exact ⟨hne, rfl⟩

lemma find?_conditions {r : Reader} :
    r.conditions.find? (fun c => r.groups.length < c.1) = none ↔
      ∀ g ∈ r.conditions.map Prod.fst, g ≤ r.groups.length := by
  simp

lemma pattern_eq_ok_iff {ignoreCase : Bool} {ts : List Token} {n : Node} {s : Reader} :
    pattern (initial known ignoreCase ts) = .ok (n, s) ↔
      ts.head? ≠ some .dangling ∧ ∃ body,
        choice ignoreCase true (ts.length + 1) (initial known ignoreCase ts) = .ok (body, s) ∧
          (s.flags.contains .ascii && s.flags.contains .unicode) = false ∧ Complete s ∧
            n = .ofList body := by
  unfold pattern
  constructor
  · intro h
    obtain ⟨u, q, hq, h⟩ := bind_ok h
    obtain ⟨hne, rfl⟩ := ne_of_checkNext hq
    obtain ⟨r, q, hq, h⟩ := bind_ok h
    cases hq
    obtain ⟨body, q, hbody, h⟩ := bind_ok h
    obtain ⟨r, q', hq', h⟩ := bind_ok h
    cases hq'
    dsimp only at h
    split at h
    · cases h
    · rename_i halphabet
      split at h
      · rename_i hempty
        cases hfind : q.conditions.find? fun c => q.groups.length < c.1 with
        | some c =>
          rw [hfind] at h
          cases h
        | none =>
          rw [hfind] at h
          cases h
          rw [← choice_initial] at hbody
          exact ⟨hne, body, hbody, by simpa using halphabet,
            ⟨by simpa using hempty, find?_conditions.mp hfind⟩, rfl⟩
      · cases h
  · rintro ⟨hne, body, hbody, halphabet, hcomplete, rfl⟩
    rw [choice_initial known] at hbody
    rw [bind_of_ok (checkNext_of_ne hne), get_bind, bind_of_ok hbody, get_bind,
      if_neg (by simpa using halphabet), if_pos (by rw [hcomplete.tokens]; rfl), find?_conditions.mpr hcomplete.conditions]
    rfl

lemma pattern_unbalanced {ignoreCase : Bool} {ts : List Token} {body : List Node} {s : Reader}
    (hne : ts.head? ≠ some .dangling)
    (h : choice ignoreCase true (ts.length + 1) (initial known ignoreCase ts) = .ok (body, s))
    (hflags : s.flags = initialFlags ignoreCase) (htokens : s.tokens ≠ []) :
    pattern (initial known ignoreCase ts) = .error (.flaw ⟨.unbalanced, some s.pos⟩) := by
  have halphabet : (s.flags.contains .ascii && s.flags.contains .unicode) = false := by
    rw [hflags]
    exact alphabet_initialFlags ignoreCase
  unfold pattern
  rw [choice_initial known] at h
  rw [bind_of_ok (checkNext_of_ne hne), get_bind, bind_of_ok h, get_bind,
    if_neg (by simpa using halphabet), if_neg (by simpa using htokens)]
  rfl

def inside (known : Text → Option Char) (ignoreCase : Bool) (ts : List Token) : Reader :=
  { initial known ignoreCase ts with pos := 5 }

def boundary (ignoreCase : Bool) : Node :=
  .anchor (.ofFlags (initialFlags ignoreCase)) .boundary

lemma extension_enclosed {ignoreCase : Bool} {ts : List Token} (h : ts.head? ≠ some .dangling)
    (mode : Mode) (start : Nat) :
    extension mode start { initial known ignoreCase (.char ':' :: ts) with pos := 4 } =
      .ok (.unnumbered false, inside known ignoreCase ts) := by
  have hadvance : advance { initial known ignoreCase (.char ':' :: ts) with pos := 4 } =
      .ok ((), inside known ignoreCase ts) := by
    rw [advance_cons rfl, if_neg h]
    rfl
  unfold extension
  rw [bind_of_ok (next_of_advance hadvance)]
  rfl

lemma group_enclosed {ignoreCase : Bool} {ts : List Token} (h : ts.head? ≠ some .dangling)
    (seq : Mode → Bool → Bool → Reading (List Node)) (mode : Mode) (start : Nat) :
    group seq mode false start { initial known ignoreCase (.char '?' :: .char ':' :: ts) with pos := 3 } =
      (do
        let body ← alternatives seq false mode false
        closing start
        return some [Item.spliced body]) (inside known ignoreCase ts) := by
  have haccept : accept '?' { initial known ignoreCase (.char '?' :: .char ':' :: ts) with pos := 3 } =
      .ok (true, { initial known ignoreCase (.char ':' :: ts) with pos := 4 }) := rfl
  unfold group
  rw [bind_of_ok haccept, if_pos rfl, bind_of_ok (extension_enclosed h mode start)]
  rfl

lemma sequence_enclosed {ignoreCase : Bool} {ts : List Token} {ns : List Node} {s : Reader}
    {k : Nat} (h : ts.head? ≠ some .dangling) {mode : Mode} :
    sequence (k + 2) [] mode false true (initial known ignoreCase (Token.wordOpening ++ ts)) =
        .ok (ns, s) ↔
      ∃ body q q', alternatives (sequence k []) false mode false (inside known ignoreCase ts) =
          .ok (body, q) ∧ closing 2 q = .ok ((), q') ∧
        sequence k [.node (.anchor mode .boundary), .spliced body] mode false true q' =
          .ok (ns, s) := by
  have hboundary : sequence (k + 2) [] mode false true
      (initial known ignoreCase (Token.wordOpening ++ ts)) =
      sequence (k + 1) [.node (.anchor mode .boundary)] mode false true
        { initial known ignoreCase (.char '(' :: .char '?' :: .char ':' :: ts) with pos := 2 } := rfl
  have hopening : advance
      { initial known ignoreCase (.char '(' :: .char '?' :: .char ':' :: ts) with pos := 2 } =
      .ok ((), { initial known ignoreCase (.char '?' :: .char ':' :: ts) with pos := 3 }) := rfl
  rw [hboundary, sequence_group rfl hopening]
  constructor
  · intro hs
    obtain ⟨new, q, hgroup, hs⟩ := bind_ok hs
    rw [group_enclosed h] at hgroup
    obtain ⟨body, q₁, hbody, hgroup⟩ := bind_ok hgroup
    obtain ⟨u, q₂, hclosing, hgroup⟩ := bind_ok hgroup
    cases hgroup
    exact ⟨body, q₁, q, hbody, hclosing, hs⟩
  · rintro ⟨body, q, q', hbody, hclosing, hs⟩
    have hgroup : group (sequence k []) mode false (3 - 1)
        { initial known ignoreCase (.char '?' :: .char ':' :: ts) with pos := 3 } =
        .ok (some [.spliced body], q') := by
      rw [group_enclosed h, bind_of_ok hbody, bind_of_ok hclosing]
      rfl
    rw [bind_of_ok hgroup]
    exact hs

lemma tokens_of_closing {start : Nat} {r s : Reader} {u : Unit}
    (h : closing start r = .ok (u, s)) : r.tokens = .char ')' :: s.tokens := by
  unfold closing at h
  obtain ⟨b, q, hq, h⟩ := bind_ok h
  cases b with
  | false => cases h
  | true =>
    cases h
    obtain ⟨hhead, hadvance⟩ := accept_eq_true_iff.mp hq
    exact tokens_of_advance hhead hadvance

lemma choice_of_enclosed {ignoreCase : Bool} {ts : List Token} {ns : List Node} {s : Reader}
    {k : Nat} (hts : ts.head? ≠ some .dangling)
    (h : choice ignoreCase true (k + 2) (initial known ignoreCase (Token.wordOpening ++ ts)) =
      .ok (ns, s)) :
    ∃ body q us, choice ignoreCase false k (inside known ignoreCase ts) = .ok (body, q) ∧
      q.tokens = .char ')' :: us ∧ q.flags = initialFlags ignoreCase := by
  unfold choice alternatives at h
  rw [get_bind] at h
  unfold alternativesFrom at h
  obtain ⟨ns', q', hsequence, -⟩ := bind_ok h
  obtain ⟨body, q, q', hbody, hclosing, -⟩ := (sequence_enclosed hts).mp hsequence
  have hbody : choice ignoreCase false k (inside known ignoreCase ts) = .ok (body, q) := hbody
  exact ⟨body, q, q'.tokens, hbody, tokens_of_closing hclosing, Steady.flags hbody⟩

lemma choice_enclosed {ignoreCase : Bool} {ts : List Token} {body : List Node} {q : Reader}
    {k : Nat} (hts : ts.head? ≠ some .dangling)
    (h : choice ignoreCase false (k + 2) (inside known ignoreCase ts) = .ok (body, q))
    (hq : q.tokens = Token.wordClosing) :
    choice ignoreCase true (k + 4) (initial known ignoreCase (Token.wordOpening ++ ts)) =
      .ok (boundary ignoreCase :: body ++ [boundary ignoreCase],
        { q with tokens := [], pos := q.pos + 3 }) := by
  obtain ⟨tokens, pos, flags, groups, names, lookbehind, conditions, charNames⟩ := q
  obtain rfl : tokens = Token.wordClosing := hq
  have hsequence : sequence (k + 4) [] (.ofFlags (initialFlags ignoreCase)) false
      (true && ([] : List (List Node)).isEmpty)
      (initial known ignoreCase (Token.wordOpening ++ ts)) =
      .ok (boundary ignoreCase :: body ++ [boundary ignoreCase],
        ⟨[], pos + 3, flags, groups, names, lookbehind, conditions, charNames⟩) :=
    (sequence_enclosed hts).mpr ⟨body, _, _, h, rfl, rfl⟩
  unfold choice alternatives
  rw [get_bind]
  unfold alternativesFrom
  rw [bind_of_ok hsequence]
  rfl

lemma dangling_not_mem {ignoreCase : Bool} {ts : List Token} {n : Node} {s : Reader}
    (h : pattern (initial known ignoreCase ts) = .ok (n, s)) : .dangling ∉ ts := by
  obtain ⟨hne, body, hbody, -, hcomplete, -⟩ := pattern_eq_ok_iff.mp h
  rw [choice_initial known] at hbody
  intro hmem
  have hs : .dangling ∈ s.tokens := ((Forward.onward hbody).dangling hne).2 hmem
  rw [hcomplete.tokens] at hs
  cases hs

lemma flags_pattern {ignoreCase : Bool} {ts : List Token} {n : Node} {s : Reader}
    (h : pattern (initial known ignoreCase ts) = .ok (n, s)) :
    s.flags = initialFlags ignoreCase ↔ ¬ OpensWithFlags ts := by
  obtain ⟨-, body, hbody, -⟩ := pattern_eq_ok_iff.mp h
  have hk : (initial known ignoreCase ts).tokens.length < ts.length + 1 := Nat.lt_succ_self _
  rw [choice] at hbody
  exact flags_alternatives hk hbody

lemma head?_append_ne {ts left right : List Token} (h : (ts ++ left).head? ≠ some .dangling)
    (hright : ∀ t ∈ right.head?, t = .char ')') : (ts ++ right).head? ≠ some .dangling := by
  cases ts with
  | nil =>
    intro hhead
    cases hright _ hhead
  | cons t ts => exact h

lemma pattern_enclosed {ignoreCase : Bool} {p : Text} {n : Node} {s : Reader}
    (h : pattern (initial known ignoreCase (Token.ofText p)) = .ok (n, s))
    (hflags : s.flags = initialFlags ignoreCase) :
    ∃ body s', n = .ofList body ∧
      pattern (initial known ignoreCase (Token.wordOpening ++ Token.ofText (p ++ ")\\b".toList))) =
        .ok (.ofList (boundary ignoreCase :: body ++ [boundary ignoreCase]), s') ∧
      s'.flags = initialFlags ignoreCase := by
  have hdangling := dangling_not_mem h
  obtain ⟨hne, body, hbody, -, hcomplete, rfl⟩ := pattern_eq_ok_iff.mp h
  rw [Token.ofText_wordClosing hdangling]
  generalize Token.ofText p = ts at *
  have hbody : choice ignoreCase true (ts.length + 1) { initial known ignoreCase (ts ++ []) with pos := 0 } =
      .ok (body, s) := by
    rw [List.append_nil]
    exact hbody
  have hk : ts.length < ts.length + 5 := by omega
  have hclosing : ∀ t ∈ Token.wordClosing.head?, t = .char ')' := by decide
  obtain ⟨q, hq, htokens, hqflags, hgroups, hconditions⟩ :=
    choice_of_choice false 5 (by omega) hk (by simp) hclosing hbody hcomplete.tokens hflags
  have hlen : (Token.wordOpening ++ (ts ++ Token.wordClosing)).length + 1 = ts.length + 3 + 4 := by
    simp [Token.wordOpening, Token.wordClosing]
  have hhead : (ts ++ []).head? ≠ some .dangling := by rwa [List.append_nil]
  have hwhole := choice_enclosed (head?_append_ne hhead hclosing) hq htokens
  rw [← hlen] at hwhole
  have hopening : (Token.wordOpening ++ (ts ++ Token.wordClosing)).head? ≠ some .dangling := by
    simp [Token.wordOpening]
  refine ⟨body, _, rfl, pattern_eq_ok_iff.mpr ⟨hopening, _, hwhole, ?_, ⟨rfl, ?_⟩, rfl⟩, hqflags⟩
  · dsimp only
    rw [hqflags]
    exact alphabet_initialFlags ignoreCase
  · dsimp only
    rw [hconditions, hgroups]
    exact hcomplete.conditions

lemma pattern_of_enclosed {ignoreCase : Bool} {p : Text} {n : Node} {s : Reader}
    (h : pattern (initial known ignoreCase (Token.wordOpening ++ Token.ofText (p ++ ")\\b".toList))) =
      .ok (n, s)) :
    (∃ body s', pattern (initial known ignoreCase (Token.ofText p)) = .ok (.ofList body, s') ∧
        s'.flags = initialFlags ignoreCase) ∨
      ∃ pos, pattern (initial known ignoreCase (Token.ofText p)) =
        .error (.flaw ⟨.unbalanced, some pos⟩) := by
  have hdangling := dangling_not_mem h
  obtain ⟨-, ns, hns, -, hcomplete, rfl⟩ := pattern_eq_ok_iff.mp h
  generalize hus : Token.ofText (p ++ ")\\b".toList) = us at *
  have hhead : us.head? ≠ some .dangling := fun hhead =>
    hdangling (List.mem_append_right _ (List.mem_of_mem_head? hhead))
  obtain ⟨body, q, vs, hbody, hq, hflags⟩ := choice_of_enclosed (k := us.length + 3) hhead hns
  obtain ⟨ts, hts⟩ : ∃ ts, ts ++ q.tokens = us := (Forward.onward hbody).tokens
  have hfrom {right : List Token} (hright : ∀ t ∈ right.head?, t = .char ')') :
      (ts ++ right).head? ≠ some .dangling ∧
        ∃ s', choice ignoreCase true ((ts ++ right).length + 1) (initial known ignoreCase (ts ++ right)) =
            .ok (body, s') ∧
          s'.tokens = right ∧ s'.flags = initialFlags ignoreCase ∧ s'.groups = q.groups ∧
            s'.conditions.map Prod.fst = q.conditions.map Prod.fst := by
    rw [inside, ← hts] at hbody
    rw [← hts] at hhead
    refine ⟨head?_append_ne hhead hright, ?_⟩
    refine choice_of_choice true 0 ?_ ?_ (by simp [hq]) hright hbody rfl hflags
    · rw [List.length_append]
      omega
    · rw [List.length_append]
      omega
  rw [hq] at hts
  rcases Token.split_wordClosing (hus.trans hts.symm) with ⟨hp, hvs⟩ | ⟨ws, hp⟩
  · have hwhole := choice_enclosed (k := us.length + 1) hhead hbody (hq.trans (by rw [hvs]; rfl))
    obtain ⟨-, rfl⟩ := Prod.mk.inj (Except.ok.inj (hwhole.symm.trans hns))
    have hright : ∀ t ∈ ([] : List Token).head?, t = .char ')' := by simp
    obtain ⟨hne, s', hs', htokens, hflags', hgroups, hconditions⟩ := hfrom hright
    rw [List.append_nil] at hne hs'
    rw [hp]
    refine Or.inl ⟨body, s', pattern_eq_ok_iff.mpr ⟨hne, body, hs', ?_, ⟨htokens, ?_⟩, rfl⟩, hflags'⟩
    · rw [hflags']
      exact alphabet_initialFlags ignoreCase
    · rw [hconditions, hgroups]
      exact hcomplete.conditions
  · have hright : ∀ t ∈ (.char ')' :: ws : List Token).head?, t = .char ')' := by simp
    obtain ⟨hne, s', hs', htokens, hflags', -⟩ := hfrom hright
    rw [hp]
    exact Or.inr ⟨s'.pos, pattern_unbalanced hne hs' hflags' (by simp [htokens])⟩

end Reading

end LineShell.Pattern
