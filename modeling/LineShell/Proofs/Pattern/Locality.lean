import LineShell.Proofs.Pattern.Seam

namespace LineShell.Pattern

namespace Seam

open Reading

variable {α β : Type} {c : Seam} {lenient : Bool} {n : Nat}

lemma follows_takeUntilFrom (x : Char) (kind : NameKind) {k k' : Nat} (hk' : n ≤ k')
    (name : Text) :
    Follows c lenient n Eq (takeUntilFrom x kind k name) (takeUntilFrom x kind k' name) := by
  induction k generalizing k' n name with
  | zero =>
    unfold takeUntilFrom
    infer_instance
  | succ k ih =>
    cases k' with
    | zero =>
      rw [Nat.le_zero.mp hk']
      exact .zero inferInstance
    | succ k' =>
      unfold takeUntilFrom
      refine .next_bind inferInstance fun t => .ite inferInstance (ih ?_ _)
      omega

instance (x : Char) (kind : NameKind) :
    Follows c lenient n Eq (takeUntil x kind) (takeUntil x kind) := by
  unfold takeUntil
  exact .get_bind inferInstance fun _ _ _ hk' => follows_takeUntilFrom x kind hk' []

instance : Follows c lenient n Eq namedEscape namedEscape := by
  have hbrace : Exact c n (accept '\x7b') (accept '\x7b') := exact_accept (by decide)
  unfold namedEscape
  exact .bind inferInstance fun b => .ite inferInstance inferInstance

instance (x : Char) : Follows c lenient n Eq (codeEscape x) (codeEscape x) := by
  unfold codeEscape
  split_ifs <;> infer_instance

instance (x : Char) : Follows c lenient n Eq (setEscape x) (setEscape x) := by
  unfold setEscape
  split
  · infer_instance
  · infer_instance
  · split_ifs <;> infer_instance

instance (mode : Mode) (x : Char) : Follows c lenient n Eq (nodeEscape mode x) (nodeEscape mode x) := by
  unfold nodeEscape
  split
  · infer_instance
  · infer_instance
  · infer_instance
  · split_ifs <;> infer_instance

instance (t : Token) : Follows c lenient n Eq (setMember t) (setMember t) := by
  unfold setMember
  split <;> infer_instance

lemma follows_skipUntil_bind {R : α → α → Prop} (x : Char) {k k' : Nat} (hk : n ≤ k)
    (hk' : n ≤ k') {f f' : Bool → Reading α} (hend : lenient = true ∨ Refuses (f false))
    (hf : ∀ b, Follows c lenient n R (f b) (f' b)) :
    Follows c lenient n R (skipUntil x k >>= f) (skipUntil x k' >>= f') := by
  induction k generalizing k' n with
  | zero =>
    obtain rfl : n = 0 := by omega
    exact .zero (Forward.bind inferInstance fun b => (hf b).forward)
  | succ k ih =>
    cases k' with
    | zero =>
      obtain rfl : n = 0 := by omega
      exact .zero (Forward.bind inferInstance fun b => (hf b).forward)
    | succ k' =>
      unfold skipUntil
      rw [bind_assoc, bind_assoc]
      refine .next_bind_or ?_ (hf false).forward fun t => ?_
      · exact hend
      · dsimp only
        split
        · exact (hf true).mono (Nat.sub_le _ _)
        · exact ih (by omega) (by omega) fun b => (hf b).mono (Nat.sub_le _ _)

lemma follows_setMembers (start start' : Nat) {k k' : Nat} (hk' : n ≤ k')
    (members : List Member) :
    Follows c lenient n Eq (setMembers start k members) (setMembers start' k' members) := by
  induction k generalizing k' n members with
  | zero =>
    unfold setMembers
    infer_instance
  | succ k ih =>
    cases k' with
    | zero =>
      rw [Nat.le_zero.mp hk']
      exact .zero inferInstance
    | succ k' =>
      have hdash (j : Nat) : Exact c j (accept '-') (accept '-') := exact_accept (by decide)
      unfold setMembers
      refine .next_bind inferInstance fun t => .ite inferInstance ?_
      refine .bind inferInstance fun first => .bind inferInstance fun dash => .ite ?_ (ih (by omega) _)
      refine .next_bind inferInstance fun u => .ite inferInstance (.bind inferInstance fun last => ?_)
      cases first with
      | code a =>
        cases last with
        | code b => exact .ite inferInstance (ih (by omega) _)
        | _ => infer_instance
      | _ => infer_instance

instance (mode : Mode) : Follows c lenient n Eq (charSet mode) (charSet mode) := by
  have hnegated : Exact c n (accept '^') (accept '^') := exact_accept (by decide)
  unfold charSet
  refine .tell_bind fun pos pos' => .bind inferInstance fun negated => .get_bind ?_ ?_
  · intro r
    refine Forward.bind inferInstance fun members => ?_
    split <;> infer_instance
  · intro r r' k _ _ _ hk'
    refine .bind (follows_setMembers _ _ hk' []) fun members => ?_
    split <;> infer_instance

def FlagsRead (p p' : List Flag × Char) : Prop :=
  p = p' ∧ p.1 ≠ []

lemma follows_flagsOn {k k' : Nat} (hk' : n ≤ k') (f : Flag) (on : List Flag) :
    Follows c lenient n FlagsRead (flagsOn k f on) (flagsOn k' f on) := by
  induction k generalizing k' n f on with
  | zero =>
    unfold flagsOn
    infer_instance
  | succ k ih =>
    cases k' with
    | zero =>
      rw [Nat.le_zero.mp hk']
      exact .zero inferInstance
    | succ k' =>
      have hread : ∀ x, FlagsRead (on ++ [f], x) (on ++ [f], x) := fun x => ⟨rfl, by simp⟩
      unfold flagsOn
      refine .ite inferInstance (.ite inferInstance (.next_bind inferInstance fun t => ?_))
      dsimp only
      split
      · exact .pure (hread _)
      · exact .pure (hread _)
      · exact .pure (hread _)
      · exact ih (by omega) _ _
      · infer_instance

lemma follows_flagsOff {k k' : Nat} (hk' : n ≤ k') (f : Flag) (off : List Flag) :
    Follows c lenient n Eq (flagsOff k f off) (flagsOff k' f off) := by
  induction k generalizing k' n f off with
  | zero =>
    unfold flagsOff
    infer_instance
  | succ k ih =>
    cases k' with
    | zero =>
      rw [Nat.le_zero.mp hk']
      exact .zero inferInstance
    | succ k' =>
      unfold flagsOff
      refine .ite inferInstance (.next_bind inferInstance fun t => ?_)
      dsimp only
      split
      · infer_instance
      · exact ih (by omega) _ _
      · infer_instance

lemma follows_leadingFlags {k k' : Nat} (hk' : n ≤ k') (t : Token) :
    Follows c lenient n (fun p p' => p = p' ∧ (p.2 = ')' → p.1 ≠ [])) (leadingFlags k t)
      (leadingFlags k' t) := by
  unfold leadingFlags
  split
  · exact (follows_flagsOn hk' _ _).imp fun p p' h => ⟨h.1, fun _ => h.2⟩
  · exact .pure ⟨rfl, by simp⟩

lemma follows_trailingFlags {k k' : Nat} (hk' : n ≤ k' + 1) (x : Char) :
    Follows c lenient n Eq (trailingFlags k x) (trailingFlags k' x) := by
  unfold trailingFlags
  refine .ite inferInstance (.next_bind inferInstance fun u => ?_)
  dsimp only
  split
  · exact follows_flagsOff (by omega) _ _
  · infer_instance

def SameSome (a a' : Option α) : Prop :=
  a = a' ∧ a ≠ none

lemma follows_setFlags {R : α → α → Prop} {on : List Flag} (hon : on ≠ []) (a : α)
    (m : Reading α) :
    Follows c lenient n R (do modify fun r => { r with flags := r.flags ++ on }; return a) m where
  forward :=
    Forward.bind (forward_addFlags on) inferInstance
  step hr h := by
    cases h
    refine Or.inl (Or.inr (Or.inl ?_))
    have hpos := List.length_pos_iff.mpr hon
    simp only [hr.flags, List.length_append]
    omega

lemma follows_inlineFlags (t : Token) :
    Follows c lenient n SameSome (inlineFlags t) (inlineFlags t) := by
  have hadd := forward_addFlags
  unfold inlineFlags
  refine .get_bind inferInstance fun _ _ _ hk' => ?_
  refine (follows_leadingFlags hk' t).bind_of (fun _ => Or.inl inferInstance) ?_
  rintro ⟨on, x⟩ _ ⟨rfl, hon⟩
  dsimp only
  split
  · rename_i hx
    exact follows_setFlags (hon hx) _ _
  · refine .ite inferInstance (.bind (follows_trailingFlags (by omega) x) fun off => ?_)
    refine .ite inferInstance (.ite inferInstance (.pure ⟨rfl, by simp⟩))

instance (mode : Mode) : Follows c lenient n Eq (namedReference mode) (namedReference mode) := by
  unfold namedReference
  refine .bind inferInstance fun name => .tell_bind fun pos pos' => .ite ?_ inferInstance
  refine .get_bind ?_ fun h _ _ _ => ?_
  · intro r
    split <;> infer_instance
  · rw [h.names]
    split <;> infer_instance

lemma lookup_isSome_iff {xs : List (Nat × Nat)} {g : Nat} :
    (xs.lookup g).isSome = true ↔ g ∈ xs.map Prod.fst := by
  induction xs with
  | nil => simp
  | cons x xs ih =>
    obtain ⟨k, v⟩ := x
    rw [List.lookup_cons, List.map_cons, List.mem_cons, ← ih]
    by_cases h : g = k
    · simp [h]
    · simp [h, beq_eq_false_iff_ne.mpr h]

lemma exact_addCondition (g pos pos' : Nat) :
    Exact c n
      (modify fun r => if (r.conditions.lookup g).isSome then r
        else { r with conditions := r.conditions ++ [(g, pos)] } : Reading PUnit)
      (modify fun r => if (r.conditions.lookup g).isSome then r
        else { r with conditions := r.conditions ++ [(g, pos')] } : Reading PUnit) := by
  refine .modify fun r r' h => ?_
  have hiff : (r.conditions.lookup g).isSome = true ↔ (r'.conditions.lookup g).isSome = true := by
    rw [lookup_isSome_iff, lookup_isSome_iff, h.conditions]
  by_cases hsome : (r.conditions.lookup g).isSome = true
  · rw [if_pos hsome, if_pos (hiff.mp hsome)]
    exact h
  · rw [if_neg hsome, if_neg (hiff.not.mp hsome)]
    exact { h with conditions := by simp [h.conditions] }

instance : Follows c lenient n Eq conditionGroup conditionGroup := by
  have hrest (group : Nat) : Exact c n (do checkLookbehind group; return group)
      (do checkLookbehind group; return group) := inferInstance
  unfold conditionGroup
  refine .bind inferInstance fun name => .tell_bind fun pos pos' => .ite ?_ ?_
  · refine .get_bind ?_ fun h _ _ _ => ?_
    · intro r
      split <;> infer_instance
    · rw [h.names]
      split <;> infer_instance
  · split
    · infer_instance
    · refine .ite inferInstance (.bind (.of_exact ?_ (steady_addCondition _ _).toForward) inferInstance)
      exact exact_addCondition _ _ _
    · infer_instance

instance (start start' : Nat) : Follows c lenient n Eq (closing start) (closing start') where
  forward := inferInstance
  step {r r' a s} hr h := by
    unfold closing at h ⊢
    obtain ⟨b, q, hq, h⟩ := bind_ok h
    cases b with
    | false => cases h
    | true =>
      cases h
      obtain ⟨hhead, hadvance⟩ := accept_eq_true_iff.mp hq
      rcases hr.cases with ⟨hleft, -⟩ | ⟨t, ts, hlen, hleft, hright⟩
      · cases hseam : c.left with
        | nil => simp [hleft, hseam] at hhead
        | cons t ts => exact Or.inl (lost_of_advance hleft hseam hadvance)
      · obtain ⟨q', hq', halong⟩ := hr.advance hlen hleft hright hadvance
        have hhead' : r'.tokens.head? = some (.char ')') := by simpa [hleft, hright] using hhead
        refine Or.inr ⟨(), q', ?_, rfl, halong.mono (Nat.sub_le _ _)⟩
        rw [bind_of_ok (accept_eq_true_iff.mpr ⟨hhead', hq'⟩)]
        rfl

lemma follows_closed (start start' : Nat) (a : α) :
    Follows c lenient n SameSome (do closing start; return some a)
      (do closing start'; return some a) :=
  .bind inferInstance fun _ => .pure ⟨rfl, by simp⟩

def moved (pos : Nat) : Opening → Opening
  | .group name _ => .group name pos
  | opening => opening

def OpensAlike (opening opening' : Opening) : Prop :=
  opening ≠ .flags ∧ ∃ pos, opening' = moved pos opening

lemma follows_extension (mode : Mode) (start start' : Nat) :
    Follows c lenient n OpensAlike (extension mode start) (extension mode start') := by
  have hangle (j : Nat) : Exact c j (accept '<') (accept '<') := exact_accept (by decide)
  have hequals (j : Nat) : Exact c j (accept '=') (accept '=') := exact_accept (by decide)
  unfold extension
  refine .next_bind inferInstance fun t => ?_
  split
  · contradiction
  · refine .bind inferInstance fun b => .ite ?_ ?_
    · refine .bind inferInstance fun name => .tell_bind fun pos pos' => .ite ?_ inferInstance
      exact .pure ⟨by simp, _, rfl⟩
    · refine .bind inferInstance fun b => .ite ?_ ?_
      · exact .bind inferInstance fun m => .pure ⟨by simp, 0, rfl⟩
      · exact .next_bind inferInstance inferInstance
  · exact .pure ⟨by simp, 0, rfl⟩
  · exact .pure ⟨by simp, 0, rfl⟩
  · refine .get_bind inferInstance fun _ _ hk hk' => ?_
    refine follows_skipUntil_bind _ hk hk' (Or.inr ⟨fun h => by cases h⟩) fun b => ?_
    exact .ite (.pure ⟨by simp, 0, rfl⟩) inferInstance
  · exact .pure ⟨by simp, 0, rfl⟩
  · exact .pure ⟨by simp, 0, rfl⟩
  · refine .next_bind inferInstance fun u => ?_
    split
    · contradiction
    · exact .pure ⟨by simp, 0, rfl⟩
    · exact .pure ⟨by simp, 0, rfl⟩
    · infer_instance
  · exact .pure ⟨by simp, 0, rfl⟩
  · refine .ite ((follows_inlineFlags _).bind_of ?_ ?_) inferInstance
    · intro p
      cases p with
      | none => exact Or.inl inferInstance
      | some p => exact Or.inr ⟨rfl, by simp⟩
    · rintro p _ ⟨rfl, hp⟩
      cases p with
      | none => contradiction
      | some p => exact .pure ⟨by simp, 0, rfl⟩

section

variable {seq seq' : Mode → Bool → Bool → Reading (List Node)}

lemma follows_refresh {R : α → α → Prop} {whole whole' : Bool} {mode : Mode} {verbose : Bool}
    (f f' : Mode → Bool → Reading α)
    (hwhole : whole = true ∨ whole' = true →
      mode = .ofFlags c.flags ∧ verbose = c.flags.contains .verbose)
    (hforward : ∀ mode verbose, Forward (f mode verbose))
    (hf : Follows c lenient n R (f mode verbose) (f' mode verbose)) :
    Follows c lenient n R
      (if whole then do
        let flags := (← get).flags
        f (.ofFlags flags) (flags.contains .verbose)
      else f mode verbose)
      (if whole' then do
        let flags := (← get).flags
        f' (.ofFlags flags) (flags.contains .verbose)
      else f' mode verbose) where
  forward := by
    split
    · exact Forward.bind inferInstance fun r => hforward _ _
    · exact hforward _ _
  step {r r' a s} hr h := by
    have hleft : f mode verbose r = .ok (a, s) := by
      cases whole with
      | true =>
        obtain ⟨hmode, hverbose⟩ := hwhole (Or.inl rfl)
        have h : f (.ofFlags r.flags) (r.flags.contains .verbose) r = .ok (a, s) := h
        rwa [hr.flags, ← hmode, ← hverbose] at h
      | false => exact h
    have hright : (if whole' then do
        let flags := (← get).flags
        f' (.ofFlags flags) (flags.contains .verbose)
      else f' mode verbose) r' = f' mode verbose r' := by
      cases whole' with
      | true =>
        obtain ⟨hmode, hverbose⟩ := hwhole (Or.inr rfl)
        change f' (.ofFlags r'.flags) (r'.flags.contains .verbose) r' = _
        rw [hr.flags', ← hmode, ← hverbose]
      | false => rfl
    rw [hright]
    exact hf.step hr hleft

lemma follows_alternativesFrom {whole whole' : Bool} {mode : Mode} {verbose : Bool}
    (hwhole : whole = true ∨ whole' = true →
      mode = .ofFlags c.flags ∧ verbose = c.flags.contains .verbose)
    [∀ mode verbose first, Forward (seq mode verbose first)]
    (hseq : ∀ first first',
      Follows c verbose n Eq (seq mode verbose first) (seq' mode verbose first'))
    {k k' : Nat} (hk : n ≤ k) (hk' : n ≤ k') (read : List (List Node)) :
    Follows c verbose n Eq (alternativesFrom seq whole k mode verbose read)
      (alternativesFrom seq' whole' k' mode verbose read) := by
  induction k generalizing k' n read with
  | zero =>
    obtain rfl : n = 0 := by omega
    exact .zero inferInstance
  | succ k ih =>
    cases k' with
    | zero =>
      obtain rfl : n = 0 := by omega
      exact .zero inferInstance
    | succ k' =>
      unfold alternativesFrom
      refine .bind (hseq _ _) fun ns => .accept_ite (by decide) ?_ inferInstance
      refine follows_refresh (alternativesFrom seq whole k · · _)
        (alternativesFrom seq' whole' k' · · _) hwhole inferInstance ?_
      exact ih (fun f f' => (hseq f f').mono (Nat.sub_le _ _)) (by omega) (by omega) _

lemma follows_alternatives {whole whole' : Bool} {mode : Mode} {verbose : Bool}
    (hwhole : whole = true ∨ whole' = true →
      mode = .ofFlags c.flags ∧ verbose = c.flags.contains .verbose)
    [∀ mode verbose first, Forward (seq mode verbose first)]
    (hseq : ∀ first first',
      Follows c verbose n Eq (seq mode verbose first) (seq' mode verbose first')) :
    Follows c verbose n Eq (alternatives seq whole mode verbose)
      (alternatives seq' whole' mode verbose) := by
  unfold alternatives
  refine .get_bind inferInstance fun _ hn hk hk' => ?_
  exact follows_alternativesFrom hwhole (fun f f' => (hseq f f').mono hn) hk hk' []

instance (start : Nat) : Closes (closing start) where
  closes {r a s} hr h := by
    unfold closing at h
    obtain ⟨b, q, hq, h⟩ := bind_ok h
    cases b with
    | false => cases h
    | true =>
      have hhead := (accept_eq_true_iff.mp hq).1
      simp [hr] at hhead

instance (m : Reading α) (f : α → Reading β) [hm : Closes m] : Closes (m >>= f) where
  closes hr h := by
    obtain ⟨a, q, hq, -⟩ := bind_ok h
    exact hm.closes hr hq

lemma Closes.behind {m : Reading α} {f : α → Reading β} (hm : Forward m)
    (hf : ∀ a, Closes (f a)) : Closes (m >>= f) where
  closes hr h := by
    obtain ⟨a, q, hq, h⟩ := bind_ok h
    have hnil := (hm.onward hq).tokens
    rw [hr, List.suffix_nil] at hnil
    exact (hf a).closes hnil h

instance (m : Reading α) (f : α → Reading β) [hm : Forward m] [hf : ∀ a, Closes (f a)] :
    Closes (m >>= f) :=
  .behind hm hf

lemma Closes.ite {p : Prop} [Decidable p] {m k : Reading α} (hm : Closes m) (hk : Closes k) :
    Closes (if p then m else k) := by
  split
  · exact hm
  · exact hk

instance (p : Prop) [Decidable p] (m k : Reading α) [hm : Closes m] [hk : Closes k] :
    Closes (if p then m else k) :=
  hm.ite hk

lemma Follows.peek_ite {R : α → α → Prop} {x : Char} (hx : x ≠ ')') {m m' k k' : Reading α}
    (hm : Follows c lenient n R m m') (hk : Follows c lenient n R k k') :
    Follows c lenient n R (do if (← peek) = some (.char x) then m else k)
      (do if (← peek) = some (.char x) then m' else k') := by
  refine .peek_bind (fun a a' ha ha' => ?_) fun t => Or.inl (.ite hm hk)
  rw [if_neg, if_neg]
  · exact hk
  · rintro rfl
    exact hx (by simpa using ha' _ rfl)
  · rintro rfl
    exact hx (by simpa using ha _ rfl)

lemma follows_setLookbehind (f : List (Option Width) → Option Nat) :
    Follows c lenient n Eq (modify fun r => { r with lookbehind := f r.groups } : Reading PUnit)
      (modify fun r => { r with lookbehind := f r.groups } : Reading PUnit) :=
  .of_exact (.modify fun r r' h => { h with lookbehind := by rw [h.groups] })
    (steady_setLookbehind fun r => f r.groups).toForward

lemma follows_group (hforward : ∀ mode verbose first, Forward (seq mode verbose first))
    (hseq : ∀ mode verbose first first',
      Follows c verbose n Eq (seq mode verbose first) (seq' mode verbose first'))
    (mode : Mode) (verbose : Bool) (start start' : Nat) :
    Follows c lenient n SameSome (group seq mode verbose start)
      (group seq' mode verbose start') := by
  have hmark : Exact c n (accept '?') (accept '?') := exact_accept (by decide)
  have hbar : Exact c n (accept '|') (accept '|') := exact_accept (by decide)
  have hbody (mode : Mode) (verbose : Bool) :
      Follows c true n Eq (alternatives seq false mode verbose)
        (alternatives seq' false mode verbose) :=
    (follows_alternatives (by simp) (hseq mode verbose)).weaken
  have hlook := steady_setLookbehind
  unfold group
  refine .bind inferInstance fun b => .branch (R := OpensAlike) ?_ ?_ ?_ ?_
  · exact follows_extension mode start start'
  · exact .pure ⟨by simp, 0, rfl⟩
  · intro opening
    cases opening with
    | flags => exact Or.inl inferInstance
    | group name pos => exact Or.inr ⟨by simp, pos, rfl⟩
    | _ => exact Or.inr ⟨by simp, 0, rfl⟩
  · rintro opening _ ⟨hflags, pos', rfl⟩
    cases opening with
    | group name pos =>
      refine .bind inferInstance fun g => (hbody _ _).bind_closes inferInstance fun body => ?_
      exact .bind inferInstance fun _ => .bind inferInstance fun _ => .pure ⟨rfl, by simp⟩
    | unnumbered atomic =>
      exact (hbody _ _).bind_closes inferInstance fun body => follows_closed _ _ _
    | moded on off =>
      exact (hbody _ _).bind_closes inferInstance fun body => follows_closed _ _ _
    | look behind negated =>
      refine .get_bind inferInstance fun h hk _ _ => ?_
      rw [h.lookbehind]
      refine .guard (follows_setLookbehind fun gs => some (gs.length + 1)) fun _ => ?_
      refine ((hbody _ _).mono hk).bind_closes inferInstance fun body => ?_
      exact .guard (follows_setLookbehind fun _ => _) fun _ => follows_closed _ _ _
    | condition =>
      refine .bind inferInstance fun g => ?_
      refine (hseq _ _ _ _).weaken.bind_closes (fun yes => .behind inferInstance fun b => ?_)
        fun yes => ?_
      · exact .ite (.behind inferInstance inferInstance) (.behind inferInstance inferInstance)
      have hrest (no : List Node) : Follows c lenient n SameSome
          (do
            if (← peek) = some (.char '|') then fail .tooManyBranches 0
            closing start
            return some [Item.node (.choose g (.ofList yes) (.ofList no))])
          (do
            if (← peek) = some (.char '|') then fail .tooManyBranches 0
            closing start'
            return some [Item.node (.choose g (.ofList yes) (.ofList no))]) :=
        .peek_ite (by decide) inferInstance (follows_closed _ _ _)
      refine .bind inferInstance fun b => .ite ?_ (.bind inferInstance hrest)
      exact (hseq _ _ _ _).weaken.bind_closes inferInstance hrest
    | done n =>
      cases n with
      | none => exact .pure ⟨rfl, by simp⟩
      | some n => exact .pure ⟨rfl, by simp⟩
    | flags => contradiction

end

lemma eq_none_or_of_stops {a : Option Token} (h : ∀ t ∈ a, t = .char ')') :
    a = none ∨ a = some (.char ')') := by
  cases a with
  | none => exact Or.inl rfl
  | some t => exact Or.inr (by rw [h t rfl])

-- Flags for the whole pattern are allowed in different places on the two sides. That makes no
-- difference, for they lose the reader in any case.
lemma follows_sequence {k k' : Nat} (hk : n ≤ k) (hk' : n ≤ k') (items : List Item) (mode : Mode)
    (verbose first first' : Bool) :
    Follows c verbose n Eq (sequence k items mode verbose first)
      (sequence k' items mode verbose first') := by
  induction k generalizing k' n items mode verbose first first' with
  | zero =>
    obtain rfl : n = 0 := by omega
    exact .zero inferInstance
  | succ k ih =>
    cases k' with
    | zero =>
      obtain rfl : n = 0 := by omega
      exact .zero inferInstance
    | succ k' =>
      -- Each round takes a token off, so that the bound `n` falls together with both fuels.
      have hnext (items : List Item) : Follows c verbose (n - 1) Eq
          (sequence k items mode verbose first) (sequence k' items mode verbose first') :=
        ih (by omega) (by omega) _ _ _ _ _
      unfold Reading.sequence
      refine .peek_bind (fun a a' ha ha' => ?_) fun t => ?_
      · have hstop : Follows c verbose n Eq (pure (items.flatMap Item.nodes))
            (pure (items.flatMap Item.nodes)) := inferInstance
        rcases eq_none_or_of_stops ha with rfl | rfl <;>
          rcases eq_none_or_of_stops ha' with rfl | rfl <;> exact hstop
      · split
        · exact Or.inl inferInstance
        · exact Or.inl inferInstance
        · exact Or.inl inferInstance
        · rename_i t _ _ _
          refine Or.inr ⟨_, _, rfl, rfl, fun _ => ?_⟩
          cases t with
          | dangling => infer_instance
          | escape x => infer_instance
          | char x =>
            refine .ite inferInstance ?_
            by_cases hcomment : (verbose && decide (x = '#')) = true
            · rw [if_pos hcomment, if_pos hcomment]
              have hverbose : verbose = true := (Bool.and_eq_true_iff.mp hcomment).1
              refine .get_bind inferInstance fun _ hj hl hl' => ?_
              exact follows_skipUntil_bind _ hl hl' (Or.inl hverbose) fun _ => (hnext _).mono hj
            rw [if_neg hcomment, if_neg hcomment]
            refine .ite inferInstance (.ite inferInstance (.ite inferInstance ?_))
            refine .ite inferInstance (.ite inferInstance (.ite ?_ ?_))
            · refine .tell_bind fun pos pos' => (follows_group inferInstance ?_ _ _ _ _).bind_of ?_ ?_
              · exact fun _ _ _ _ => ih (by omega) (by omega) _ _ _ _ _
              · -- A group that sets flags is not followed: it has lost the reader already.
                intro new
                cases new with
                | none => exact Or.inl inferInstance
                | some new => exact Or.inr ⟨rfl, by simp⟩
              · rintro new _ ⟨rfl, hnew⟩
                cases new with
                | none => contradiction
                | some new => exact hnext _
            · refine .tell_bind fun pos pos' => .bind inferInstance fun bounds => ?_
              cases bounds <;> infer_instance

lemma follows_choice (whole whole' : Bool) {k k' : Nat} (hk : n ≤ k) (hk' : n ≤ k') :
    Follows c (c.flags.contains .verbose) n Eq
      (alternatives (sequence k []) whole (.ofFlags c.flags) (c.flags.contains .verbose))
      (alternatives (sequence k' []) whole' (.ofFlags c.flags) (c.flags.contains .verbose)) :=
  follows_alternatives (fun _ => ⟨rfl, rfl⟩) fun _ _ => follows_sequence hk hk' _ _ _ _ _

end Seam

end LineShell.Pattern
