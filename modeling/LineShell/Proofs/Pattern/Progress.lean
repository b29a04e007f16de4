import LineShell.Pattern.Search
import Mathlib.Data.List.Infix

namespace LineShell.Pattern

structure Onward (r s : Reader) : Prop where
  tokens : s.tokens <:+ r.tokens
  flags : r.flags <+: s.flags
  dangling : r.tokens.head? ≠ some .dangling →
    s.tokens.head? ≠ some .dangling ∧ (.dangling ∈ r.tokens → .dangling ∈ s.tokens)

namespace Onward

@[refl]
lemma refl (r : Reader) : Onward r r :=
  ⟨List.suffix_rfl, List.prefix_rfl, fun h => ⟨h, id⟩⟩

lemma trans {r s t : Reader} (hrs : Onward r s) (hst : Onward s t) : Onward r t where
  tokens := hst.tokens.trans hrs.tokens
  flags := hrs.flags.trans hst.flags
  dangling h :=
    have hs := hrs.dangling h
    have ht := hst.dangling hs.1
    ⟨ht.1, ht.2 ∘ hs.2⟩

lemma of_eq {r s : Reader} (htokens : s.tokens = r.tokens) (hflags : r.flags <+: s.flags) :
    Onward r s :=
  ⟨by rw [htokens], hflags, fun h => by rw [htokens]; exact ⟨h, id⟩⟩

lemma length_le {r s : Reader} (h : Onward r s) : s.tokens.length ≤ r.tokens.length :=
  h.tokens.length_le

end Onward

namespace Reading

variable {α β : Type}

lemma bind_ok {m : Reading α} {f : α → Reading β} {r s : Reader} {b : β}
    (h : (m >>= f) r = .ok (b, s)) : ∃ a q, m r = .ok (a, q) ∧ f a q = .ok (b, s) := by
  have hbind : (m >>= f) r = (m r).bind fun p => f p.1 p.2 := rfl
  rw [hbind] at h
  cases hm : m r with
  | error e =>
    rw [hm] at h
    cases h
  | ok p =>
    rw [hm] at h
    exact ⟨p.1, p.2, rfl, h⟩

lemma bind_of_ok {m : Reading α} {r s : Reader} {a : α} (h : m r = .ok (a, s))
    (f : α → Reading β) : (m >>= f) r = f a s := by
  have hbind : (m >>= f) r = (m r).bind fun p => f p.1 p.2 := rfl
  rw [hbind, h]
  rfl

lemma get_bind (f : Reader → Reading β) (r : Reader) : (get >>= f) r = f r r :=
  rfl

lemma tell_bind (f : Nat → Reading β) (r : Reader) : (tell >>= f) r = f r.pos r :=
  rfl

lemma peek_bind (f : Option Token → Reading β) (r : Reader) :
    (peek >>= f) r = f r.tokens.head? r :=
  rfl

class Forward (m : Reading α) : Prop where
  onward : ∀ {r a s}, m r = .ok (a, s) → Onward r s

class Steady (m : Reading α) : Prop extends Forward m where
  flags : ∀ {r a s}, m r = .ok (a, s) → s.flags = r.flags

section Combinators

lemma Forward.bind {m : Reading α} {f : α → Reading β} (hm : Forward m)
    (hf : ∀ a, Forward (f a)) : Forward (m >>= f) where
  onward h := by
    obtain ⟨a, q, hq, hs⟩ := bind_ok h
    exact (hm.onward hq).trans ((hf a).onward hs)

instance (m : Reading α) (f : α → Reading β) [hm : Forward m] [hf : ∀ a, Forward (f a)] :
    Forward (m >>= f) :=
  hm.bind hf

lemma Steady.bind {m : Reading α} {f : α → Reading β} (hm : Steady m) (hf : ∀ a, Steady (f a)) :
    Steady (m >>= f) where
  toForward := hm.toForward.bind fun a => (hf a).toForward
  flags h := by
    obtain ⟨a, q, hq, hs⟩ := bind_ok h
    exact ((hf a).flags hs).trans (hm.flags hq)

instance (m : Reading α) (f : α → Reading β) [hm : Steady m] [hf : ∀ a, Steady (f a)] :
    Steady (m >>= f) :=
  hm.bind hf

lemma Forward.ite {c : Prop} [Decidable c] {m n : Reading α} (hm : Forward m) (hn : Forward n) :
    Forward (if c then m else n) := by
  split
  · exact hm
  · exact hn

instance (c : Prop) [Decidable c] (m n : Reading α) [hm : Forward m] [hn : Forward n] :
    Forward (if c then m else n) :=
  hm.ite hn

lemma Steady.ite {c : Prop} [Decidable c] {m n : Reading α} (hm : Steady m) (hn : Steady n) :
    Steady (if c then m else n) := by
  split
  · exact hm
  · exact hn

instance (c : Prop) [Decidable c] (m n : Reading α) [hm : Steady m] [hn : Steady n] :
    Steady (if c then m else n) :=
  hm.ite hn

lemma Forward.branch {c : Prop} [Decidable c] {m n : Reading α} {k : α → Reading β}
    (hm : Forward m) (hn : Forward n) (hk : ∀ a, Forward (k a)) :
    Forward (if c then m >>= k else n >>= k) :=
  (hm.bind hk).ite (hn.bind hk)

class Refuses (m : Reading α) : Prop where
  refuses : ∀ {r a s}, m r ≠ .ok (a, s)

instance (e : Rejection) : Refuses (throw e : Reading α) where
  refuses h := by cases h

instance (cause : Cause) (pos : Nat) : Refuses (failAt cause pos : Reading α) where
  refuses h := by cases h

instance (cause : Cause) (offset : Nat) : Refuses (fail cause offset : Reading α) where
  refuses h := by cases h

instance (t : Token) (missing : Cause) : Refuses (noFlag t missing : Reading α) where
  refuses h := by cases h

instance (m : Reading α) (f : α → Reading β) [hm : Refuses m] : Refuses (m >>= f) where
  refuses h := by
    obtain ⟨a, q, hq, -⟩ := bind_ok h
    exact hm.refuses hq

instance (m : Reading α) (f : α → Reading β) [hf : ∀ a, Refuses (f a)] : Refuses (m >>= f) where
  refuses h := by
    obtain ⟨a, q, -, hq⟩ := bind_ok h
    exact (hf a).refuses hq

instance (p : Prop) [Decidable p] (m m' : Reading α) [Refuses m] [Refuses m'] :
    Refuses (if p then m else m') := by
  split <;> infer_instance

instance (m : Reading α) [hm : Refuses m] : Steady m where
  onward h := (hm.refuses h).elim
  flags h := (hm.refuses h).elim

instance (a : α) : Steady (pure a : Reading α) where
  onward h := by
    cases h
    rfl
  flags h := by
    cases h
    rfl

instance : Steady (get : Reading Reader) where
  onward h := by
    cases h
    rfl
  flags h := by
    cases h
    rfl

lemma steady_modify {f : Reader → Reader} (htokens : ∀ r, (f r).tokens = r.tokens)
    (hflags : ∀ r, (f r).flags = r.flags) : Steady (modify f : Reading PUnit) where
  onward h := by
    cases h
    exact .of_eq (htokens _) (by rw [hflags])
  flags h := by
    cases h
    exact hflags _

lemma forward_addFlags (on : List Flag) :
    Forward (modify fun r => { r with flags := r.flags ++ on } : Reading PUnit) where
  onward h := by
    cases h
    exact .of_eq rfl (List.prefix_append _ _)

end Combinators

instance : Steady tell := by
  unfold tell
  infer_instance

instance : Steady peek := by
  unfold peek
  infer_instance

lemma advance_nil {r : Reader} (h : r.tokens = []) : advance r = .ok ((), r) := by
  obtain ⟨tokens, _⟩ := r
  subst h
  rfl

lemma advance_cons {r : Reader} {t : Token} {ts : List Token} (h : r.tokens = t :: ts) :
    advance r =
      if ts.head? = some .dangling then
        .error (.flaw ⟨.danglingEscape, some (r.pos + t.text.length)⟩)
      else .ok ((), { r with tokens := ts, pos := r.pos + t.text.length }) := by
  obtain ⟨tokens, pos, _⟩ := r
  subst h
  change (if ts.head? = some .dangling then failAt .danglingEscape _ else pure ()) _ = _
  split <;> rfl

lemma advance_cases {r s : Reader} {u : Unit} (h : advance r = .ok (u, s)) :
    r.tokens = [] ∧ s = r ∨ ∃ t ts, r.tokens = t :: ts ∧ ts.head? ≠ some .dangling ∧
      s = { r with tokens := ts, pos := r.pos + t.text.length } := by
  cases hr : r.tokens with
  | nil =>
    rw [advance_nil hr] at h
    cases h
    exact Or.inl ⟨rfl, rfl⟩
  | cons t ts =>
    rw [advance_cons hr] at h
    split at h
    · cases h
    · rename_i hts
      cases h
      exact Or.inr ⟨t, ts, rfl, hts, rfl⟩

instance : Steady advance where
  onward h := by
    rcases advance_cases h with ⟨-, rfl⟩ | ⟨t, ts, hr, hts, rfl⟩
    · rfl
    · refine ⟨by simp [hr], List.prefix_rfl, fun hd => ⟨hts, fun hmem => ?_⟩⟩
      have ht : t ≠ .dangling := by simpa [hr] using hd
      rw [hr] at hmem
      exact (List.mem_cons.mp hmem).resolve_left ht.symm
  flags h := by
    rcases advance_cases h with ⟨-, rfl⟩ | ⟨t, ts, -, -, rfl⟩ <;> rfl

instance : Steady next := by
  unfold next
  infer_instance

instance (c : Char) : Steady (accept c) := by
  unfold accept
  infer_instance

lemma next_ok {r s : Reader} {a : Option Token} (h : next r = .ok (a, s)) :
    a = r.tokens.head? ∧ advance r = .ok ((), s) := by
  unfold next at h
  rw [peek_bind] at h
  obtain ⟨u, q, hq, h⟩ := bind_ok h
  cases h
  exact ⟨rfl, hq⟩

lemma next_of_advance {r s : Reader} (h : advance r = .ok ((), s)) :
    next r = .ok (r.tokens.head?, s) := by
  unfold next
  rw [peek_bind, bind_of_ok h]
  rfl

lemma accept_eq_true_iff {r s : Reader} {x : Char} :
    accept x r = .ok (true, s) ↔
      r.tokens.head? = some (.char x) ∧ advance r = .ok ((), s) := by
  unfold accept
  rw [peek_bind]
  split
  · rename_i hhead
    constructor
    · intro h
      obtain ⟨u, q, hq, h⟩ := bind_ok h
      cases h
      exact ⟨hhead, hq⟩
    · rintro ⟨-, hq⟩
      rw [bind_of_ok hq]
      rfl
  · rename_i hhead
    constructor
    · intro h
      cases h
    · intro h
      exact (hhead h.1).elim

instance (p : Char → Bool) (n : Nat) : Steady (takeWhile p n) := by
  induction n with
  | zero =>
    unfold takeWhile
    infer_instance
  | succ n ih =>
    unfold takeWhile
    refine Steady.bind inferInstance fun a => ?_
    split <;> infer_instance

instance (p : Char → Bool) : Steady (takeAll p) := by
  unfold takeAll
  infer_instance

instance (terminator : Char) (kind : NameKind) (fuel : Nat) (name : Text) :
    Steady (takeUntilFrom terminator kind fuel name) := by
  induction fuel generalizing name with
  | zero =>
    unfold takeUntilFrom
    infer_instance
  | succ fuel ih =>
    unfold takeUntilFrom
    refine Steady.bind inferInstance fun a => ?_
    cases a <;> infer_instance

instance (terminator : Char) (kind : NameKind) : Steady (takeUntil terminator kind) := by
  unfold takeUntil
  infer_instance

instance (terminator : Char) (fuel : Nat) : Steady (skipUntil terminator fuel) := by
  induction fuel with
  | zero =>
    unfold skipUntil
    infer_instance
  | succ fuel ih =>
    unfold skipUntil
    refine Steady.bind inferInstance fun a => ?_
    cases a <;> infer_instance

instance : Steady groupCount := by
  unfold groupCount
  infer_instance

instance (group : Nat) : Steady (closedWidth? group) := by
  unfold closedWidth?
  infer_instance

instance (group : Nat) : Steady (checkLookbehind group) := by
  unfold checkLookbehind
  refine Steady.bind inferInstance fun r => ?_
  split <;> infer_instance

instance (mode : Mode) (group pos : Nat) : Steady (reference mode group pos) := by
  unfold reference
  refine Steady.bind inferInstance fun w => ?_
  cases w <;> infer_instance

instance (c : Char) (n : Nat) : Steady (hexEscape c n) := by
  unfold hexEscape
  infer_instance

instance (name : Text) : Steady (namedCode name) := by
  unfold namedCode
  refine Steady.bind inferInstance fun r => ?_
  split <;> infer_instance

instance : Steady namedEscape := by
  unfold namedEscape
  infer_instance

instance (ds : Text) : Steady (octalEscape ds) := by
  unfold octalEscape
  infer_instance

instance (c : Char) : Steady (codeEscape c) := by
  unfold codeEscape
  infer_instance

instance (c : Char) : Steady (setEscape c) := by
  unfold setEscape
  split <;> infer_instance

instance (mode : Mode) (c : Char) : Steady (digitEscape mode c) := by
  unfold digitEscape
  infer_instance

instance (mode : Mode) (c : Char) : Steady (nodeEscape mode c) := by
  unfold nodeEscape
  split <;> infer_instance

instance (t : Token) : Steady (setMember t) := by
  unfold setMember
  split <;> infer_instance

instance (start fuel : Nat) (members : List Member) :
    Steady (setMembers start fuel members) := by
  induction fuel generalizing members with
  | zero =>
    unfold setMembers
    infer_instance
  | succ fuel ih =>
    unfold setMembers
    refine Steady.bind inferInstance fun a => ?_
    cases a with
    | none => infer_instance
    | some t =>
      dsimp only
      split
      · infer_instance
      · refine Steady.bind inferInstance fun first => Steady.bind inferInstance fun dash => ?_
        split
        · refine Steady.bind inferInstance fun b => ?_
          cases b with
          | none => infer_instance
          | some u =>
            dsimp only
            split
            · infer_instance
            · refine Steady.bind inferInstance fun last => ?_
              split <;> infer_instance
        · infer_instance

instance (mode : Mode) : Steady (charSet mode) := by
  unfold charSet
  refine Steady.bind inferInstance fun pos => Steady.bind inferInstance fun negated => ?_
  refine Steady.bind inferInstance fun r => Steady.bind inferInstance fun members => ?_
  split <;> infer_instance

instance (digits : Text) : Steady (count? digits) := by
  unfold count?
  infer_instance

lemma onward_of_retreat {m : Reading α} [hm : Steady m] {c : Char} {here q s : Reader} {a b : α}
    (hq : Onward here q ∧ q.flags = here.flags)
    (h : (do if ← accept c then m else do set here; return b) q = .ok (a, s)) :
    Onward here s ∧ s.flags = here.flags := by
  obtain ⟨found, q', hq', h⟩ := bind_ok h
  cases found with
  | true =>
    have h : m q' = .ok (a, s) := h
    have hstep := (Forward.onward hq').trans (Forward.onward h)
    exact ⟨hq.1.trans hstep, (hm.flags h).trans ((Steady.flags hq').trans hq.2)⟩
  | false =>
    cases h
    exact ⟨.refl _, rfl⟩

lemma onward_bounds? {r s : Reader} {a : Option (Nat × Option Nat)}
    (h : bounds? r = .ok (a, s)) : Onward r s ∧ s.flags = r.flags := by
  change (if r.tokens.head? = some (.char '\x7d') then pure none else _ : Reading _) r = _ at h
  split at h
  · cases h
    exact ⟨.refl _, rfl⟩
  · obtain ⟨low, q, hlow, h⟩ := bind_ok h
    obtain ⟨comma, q', hcomma, h⟩ := bind_ok h
    have honward := (Forward.onward hlow).trans (Forward.onward hcomma)
    have hflags := (Steady.flags hcomma).trans (Steady.flags hlow)
    dsimp only at h
    split at h
    · obtain ⟨high, q'', hhigh, h⟩ := bind_ok h
      exact onward_of_retreat
        ⟨honward.trans (Forward.onward hhigh), (Steady.flags hhigh).trans hflags⟩ h
    · exact onward_of_retreat ⟨honward, hflags⟩ h

instance : Steady bounds? where
  onward h := (onward_bounds? h).1
  flags h := (onward_bounds? h).2

instance (c : Char) : Steady (quantifier? c) := by
  unfold quantifier?
  split <;> infer_instance

instance : Steady greed := by
  unfold greed
  infer_instance

instance (items : List Item) (least : Nat) (most : Option Nat) (pos : Nat) :
    Steady (repeatLast items least most pos) := by
  unfold repeatLast
  dsimp only
  split <;> infer_instance

instance (fuel : Nat) (f : Flag) (on : List Flag) : Steady (flagsOn fuel f on) := by
  induction fuel generalizing f on with
  | zero =>
    unfold flagsOn
    infer_instance
  | succ fuel ih =>
    unfold flagsOn
    refine Steady.ite inferInstance (Steady.ite inferInstance ?_)
    refine Steady.bind inferInstance fun a => ?_
    cases a with
    | none => infer_instance
    | some t =>
      dsimp only
      split <;> infer_instance

instance (fuel : Nat) (f : Flag) (off : List Flag) : Steady (flagsOff fuel f off) := by
  induction fuel generalizing f off with
  | zero =>
    unfold flagsOff
    infer_instance
  | succ fuel ih =>
    unfold flagsOff
    refine Steady.ite inferInstance (Steady.bind inferInstance fun a => ?_)
    cases a with
    | none => infer_instance
    | some t =>
      dsimp only
      split <;> infer_instance

instance (fuel : Nat) (t : Token) : Steady (leadingFlags fuel t) := by
  unfold leadingFlags
  split <;> infer_instance

instance (fuel : Nat) (c : Char) : Steady (trailingFlags fuel c) := by
  unfold trailingFlags
  split
  · infer_instance
  · refine Steady.bind inferInstance fun a => ?_
    cases a with
    | none => infer_instance
    | some u =>
      dsimp only
      split <;> infer_instance

instance (name : Option Text) (pos : Nat) : Steady (openGroup name pos) := by
  unfold openGroup
  refine Steady.bind inferInstance fun n => ?_
  refine Steady.bind (steady_modify (fun _ => rfl) fun _ => rfl) fun _ => ?_
  cases name with
  | none => infer_instance
  | some name =>
    refine Steady.bind inferInstance fun r => ?_
    split
    · infer_instance
    · exact Steady.bind (steady_modify (fun _ => rfl) fun _ => rfl) inferInstance

instance (group : Nat) (width : Width) : Steady (closeGroup group width) :=
  steady_modify (fun _ => rfl) fun _ => rfl

instance (mode : Mode) : Steady (namedReference mode) := by
  unfold namedReference
  refine Steady.bind inferInstance fun name => Steady.bind inferInstance fun pos => ?_
  dsimp only
  split
  · refine Steady.bind inferInstance fun r => ?_
    split <;> infer_instance
  · infer_instance

lemma steady_addCondition (g pos : Nat) :
    Steady (modify fun r => if (r.conditions.lookup g).isSome then r
      else { r with conditions := r.conditions ++ [(g, pos)] } : Reading PUnit) := by
  refine steady_modify (fun r => ?_) fun r => ?_
  · split <;> rfl
  · split <;> exact rfl

instance : Steady conditionGroup := by
  unfold conditionGroup
  refine Steady.bind inferInstance fun name => Steady.bind inferInstance fun pos => ?_
  dsimp only
  split
  · refine Steady.bind inferInstance fun r => ?_
    split <;> infer_instance
  · split
    · infer_instance
    · exact Steady.ite inferInstance (Steady.bind (steady_addCondition _ _) inferInstance)
    · infer_instance

instance (start : Nat) : Steady (closing start) := by
  unfold closing
  infer_instance

instance (t : Token) : Forward (inlineFlags t) := by
  have := forward_addFlags
  unfold inlineFlags
  infer_instance

instance (mode : Mode) (start : Nat) : Forward (extension mode start) := by
  unfold extension
  refine Forward.bind inferInstance fun a => ?_
  split
  · infer_instance
  · refine Forward.bind inferInstance fun b => ?_
    split
    · infer_instance
    · refine Forward.bind inferInstance fun b => ?_
      split
      · infer_instance
      · refine Forward.bind inferInstance fun a => ?_
        cases a <;> infer_instance
  · infer_instance
  · infer_instance
  · infer_instance
  · infer_instance
  · infer_instance
  · refine Forward.bind inferInstance fun a => ?_
    split <;> infer_instance
  · infer_instance
  · split
    · refine Forward.bind inferInstance fun p => ?_
      cases p <;> infer_instance
    · infer_instance

lemma steady_setLookbehind (f : Reader → Option Nat) :
    Steady (modify fun r => { r with lookbehind := f r } : Reading PUnit) :=
  steady_modify (fun _ => rfl) fun _ => rfl

section

variable {seq : Mode → Bool → Bool → Reading (List Node)}
  [∀ mode verbose first, Forward (seq mode verbose first)]

instance (whole : Bool) (fuel : Nat) (mode : Mode) (verbose : Bool) (read : List (List Node)) :
    Forward (alternativesFrom seq whole fuel mode verbose read) := by
  induction fuel generalizing mode verbose read with
  | zero =>
    unfold alternativesFrom
    infer_instance
  | succ fuel ih =>
    unfold alternativesFrom
    infer_instance

instance (whole : Bool) (mode : Mode) (verbose : Bool) :
    Forward (alternatives seq whole mode verbose) := by
  unfold alternatives
  infer_instance

instance (mode : Mode) (verbose : Bool) (start : Nat) :
    Forward (group seq mode verbose start) := by
  have hlook := steady_setLookbehind
  unfold group
  refine Forward.bind inferInstance fun b => ?_
  refine Forward.branch inferInstance inferInstance fun opening => ?_
  cases opening with
  | condition =>
    refine Forward.bind inferInstance fun g => Forward.bind inferInstance fun yes => ?_
    refine Forward.bind inferInstance fun b => ?_
    exact Forward.branch inferInstance inferInstance fun no => inferInstance
  | done n => cases n <;> infer_instance
  | _ => infer_instance

end

instance (fuel : Nat) (items : List Item) (mode : Mode) (verbose first : Bool) :
    Forward (sequence fuel items mode verbose first) := by
  induction fuel generalizing items mode verbose first with
  | zero =>
    unfold sequence
    infer_instance
  | succ fuel ih =>
    unfold sequence
    refine Forward.bind inferInstance fun a => ?_
    split
    · infer_instance
    · infer_instance
    · infer_instance
    · refine Forward.bind inferInstance fun _ => ?_
      split
      · infer_instance
      · infer_instance
      · refine Forward.ite inferInstance (Forward.ite inferInstance (Forward.ite inferInstance ?_))
        refine Forward.ite inferInstance (Forward.ite inferInstance (Forward.ite inferInstance ?_))
        refine Forward.ite inferInstance (Forward.ite ?_ ?_)
        · refine Forward.bind inferInstance fun pos => Forward.bind inferInstance fun new => ?_
          cases new <;> infer_instance
        · refine Forward.bind inferInstance fun pos => Forward.bind inferInstance fun bounds => ?_
          cases bounds <;> infer_instance

end Reading

end LineShell.Pattern
