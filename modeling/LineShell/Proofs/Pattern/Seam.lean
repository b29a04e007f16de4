import LineShell.Proofs.Pattern.Progress

/-! Two texts with the same tokens up to a seam, where each of them ends or has a closing
parenthesis. Read side by side, a reading that succeeds on the one succeeds on the other, as long as
it stays in front of the seam and sets no flags. -/

namespace LineShell.Pattern

structure Seam where
  flags : List Flag
  left : List Token
  right : List Token
  left_stops : ∀ t ∈ left.head?, t = .char ')'
  right_stops : ∀ t ∈ right.head?, t = .char ')'

namespace Seam

variable {α β : Type} {c : Seam} {lenient : Bool} {n : Nat} {r r' s s' : Reader}

/-- Two readers at the same place, fewer than `n` tokens in front of the seam. What was read before
may stand elsewhere in the two texts. -/
structure Along (c : Seam) (n : Nat) (r r' : Reader) : Prop where
  tokens : ∃ ts : List Token, ts.length < n ∧ r.tokens = ts ++ c.left ∧ r'.tokens = ts ++ c.right
  flags : r.flags = c.flags
  flags' : r'.flags = c.flags
  groups : r'.groups = r.groups
  names : r'.names = r.names
  lookbehind : r'.lookbehind = r.lookbehind
  conditions : r'.conditions.map Prod.fst = r.conditions.map Prod.fst
  charNames : r'.charNames = r.charNames

lemma Along.mono {k : Nat} (h : c.Along k r r') (hk : k ≤ n) : c.Along n r r' where
  tokens :=
    have ⟨ts, hlen, hl, hr⟩ := h.tokens
    ⟨ts, hlen.trans_le hk, hl, hr⟩
  flags := h.flags
  flags' := h.flags'
  groups := h.groups
  names := h.names
  lookbehind := h.lookbehind
  conditions := h.conditions
  charNames := h.charNames

/-- The reader of the left text is past the seam, has flags that were not there, or may have read to
the end without telling it from a parenthesis. -/
def Lost (c : Seam) (lenient : Bool) (r : Reader) : Prop :=
  ¬ c.left <:+ r.tokens ∨ c.flags.length < r.flags.length ∨ lenient = true ∧ r.tokens = []

lemma Lost.onward (h : c.Lost lenient r) (hs : Onward r s) : c.Lost lenient s := by
  rcases h with h | h | ⟨hv, h⟩
  · exact Or.inl fun hleft => h (hleft.trans hs.tokens)
  · exact Or.inr (Or.inl (h.trans_le hs.flags.length_le))
  · refine Or.inr (Or.inr ⟨hv, ?_⟩)
    have := hs.tokens
    rw [h] at this
    exact List.suffix_nil.mp this

lemma head?_left_ne (c : Seam) {t : Token} (ht : t ≠ .char ')') : c.left.head? ≠ some t :=
  fun h => ht (c.left_stops t h)

lemma head?_right_ne (c : Seam) {t : Token} (ht : t ≠ .char ')') : c.right.head? ≠ some t :=
  fun h => ht (c.right_stops t h)

lemma head?_append_iff (c : Seam) {t : Token} (ht : t ≠ .char ')') (ts : List Token) :
    (ts ++ c.left).head? = some t ↔ (ts ++ c.right).head? = some t := by
  cases ts with
  | nil => simp [c.head?_left_ne ht, c.head?_right_ne ht]
  | cons u us => simp

lemma Along.head?_iff (h : c.Along n r r') {t : Token} (ht : t ≠ .char ')') :
    r.tokens.head? = some t ↔ r'.tokens.head? = some t := by
  obtain ⟨ts, -, hl, hr⟩ := h.tokens
  rw [hl, hr]
  exact c.head?_append_iff ht ts

class Closes (m : Reading α) : Prop where
  closes : ∀ {r a s}, r.tokens = [] → m r ≠ .ok (a, s)

class Exact (c : Seam) (n : Nat) (m m' : Reading α) : Prop where
  step : ∀ {r r' a s}, c.Along n r r' → m r = .ok (a, s) →
    ∃ s', m' r' = .ok (a, s') ∧ c.Along n s s'

/-- Where the reading of the left text succeeds and is not lost, that of the right one succeeds
alike. -/
class Follows (c : Seam) (lenient : Bool) (n : Nat) (R : α → α → Prop) (m m' : Reading α) :
    Prop where
  forward : Reading.Forward m
  step : ∀ {r r' a s}, c.Along n r r' → m r = .ok (a, s) →
    c.Lost lenient s ∨ ∃ a' s', m' r' = .ok (a', s') ∧ R a a' ∧ c.Along n s s'

open Reading

section Exact

instance (m m' : Reading α) [hm : Refuses m] : Exact c n m m' where
  step _ h := (hm.refuses h).elim

instance (a : α) : Exact c n (pure a) (pure a) where
  step hr h := by
    cases h
    exact ⟨_, rfl, hr⟩

lemma Exact.bind {m m' : Reading α} {f f' : α → Reading β} (hm : Exact c n m m')
    (hf : ∀ a, Exact c n (f a) (f' a)) : Exact c n (m >>= f) (m' >>= f') where
  step hr h := by
    obtain ⟨a, q, hq, hs⟩ := bind_ok h
    obtain ⟨q', hq', halong⟩ := hm.step hr hq
    obtain ⟨s', hs', halong⟩ := (hf a).step halong hs
    exact ⟨s', by rw [bind_of_ok hq', hs'], halong⟩

instance (m m' : Reading α) (f f' : α → Reading β) [hm : Exact c n m m']
    [hf : ∀ a, Exact c n (f a) (f' a)] : Exact c n (m >>= f) (m' >>= f') :=
  hm.bind hf

lemma Exact.ite {p p' : Prop} [Decidable p] [Decidable p'] {m m' k k' : Reading α} (hp : p ↔ p')
    (hm : Exact c n m m') (hk : Exact c n k k') :
    Exact c n (if p then m else k) (if p' then m' else k') := by
  by_cases h : p
  · rw [if_pos h, if_pos (hp.mp h)]
    exact hm
  · rw [if_neg h, if_neg (hp.not.mp h)]
    exact hk

instance (p : Prop) [Decidable p] (m m' k k' : Reading α) [hm : Exact c n m m']
    [hk : Exact c n k k'] : Exact c n (if p then m else k) (if p then m' else k') :=
  .ite Iff.rfl hm hk

instance (f f' : Nat → Reading β) [hf : ∀ p p', Exact c n (f p) (f' p')] :
    Exact c n (tell >>= f) (tell >>= f') where
  step {r r' _ _} hr h := (hf r.pos r'.pos).step hr h

lemma Exact.get_bind {f f' : Reader → Reading β}
    (hf : ∀ {r r' k}, c.Along k r r' → k ≤ n → k ≤ r.tokens.length + 1 →
      k ≤ r'.tokens.length + 1 → Exact c k (f r) (f' r')) :
    Exact c n (get >>= f) (get >>= f') where
  step {r r' a s} hr h := by
    obtain ⟨ts, hlen, hleft, hright⟩ := hr.tokens
    have halong : c.Along (ts.length + 1) r r' :=
      { hr with tokens := ⟨ts, Nat.lt_succ_self _, hleft, hright⟩ }
    obtain ⟨s', hs', hs⟩ := (hf halong hlen (by simp [hleft]) (by simp [hright])).step halong h
    exact ⟨s', hs', hs.mono hlen⟩

lemma Exact.modify {f f' : Reader → Reader}
    (h : ∀ r r', c.Along n r r' → c.Along n (f r) (f' r')) :
    Exact c n (modify f : Reading PUnit) (modify f' : Reading PUnit) where
  step hr hs := by
    cases hs
    exact ⟨_, rfl, h _ _ hr⟩

lemma Along.cases (h : c.Along n r r') :
    r.tokens = c.left ∧ r'.tokens = c.right ∨
      ∃ t ts, ts.length + 1 < n ∧ r.tokens = t :: ts ++ c.left ∧ r'.tokens = t :: ts ++ c.right := by
  obtain ⟨ts, hlen, hl, hr⟩ := h.tokens
  cases ts with
  | nil => exact Or.inl ⟨hl, hr⟩
  | cons t ts => exact Or.inr ⟨t, ts, hlen, hl, hr⟩

lemma Along.advance {t : Token} {ts : List Token} {a : Unit} (h : c.Along n r r')
    (hlen : ts.length + 1 < n) (hl : r.tokens = t :: ts ++ c.left)
    (hr : r'.tokens = t :: ts ++ c.right) (hs : advance r = .ok (a, s)) :
    ∃ s', advance r' = .ok (a, s') ∧ c.Along (n - 1) s s' := by
  rw [List.cons_append] at hl hr
  rw [advance_cons hl] at hs
  rw [advance_cons hr]
  split at hs
  · cases hs
  · rename_i hdangling
    cases hs
    rw [if_neg ((c.head?_append_iff (by simp) ts).not.mp hdangling)]
    exact ⟨_, rfl, { h with tokens := ⟨ts, by omega, rfl, rfl⟩ }⟩

lemma Along.accept {x : Char} {b : Bool} (h : c.Along n r r') (hx : x ≠ ')')
    (hs : accept x r = .ok (b, s)) :
    ∃ s', accept x r' = .ok (b, s') ∧ c.Along (if b then n - 1 else n) s s' := by
  unfold Reading.accept at hs ⊢
  rw [peek_bind] at hs ⊢
  have hhead := h.head?_iff (t := .char x) (by simpa using hx)
  by_cases hnext : r.tokens.head? = some (.char x)
  · rw [if_pos hnext] at hs
    rw [if_pos (hhead.mp hnext)]
    rcases h.cases with ⟨hleft, -⟩ | ⟨t, ts, hlen, hleft, hright⟩
    · exact (c.head?_left_ne (by simpa using hx) (hleft ▸ hnext)).elim
    · obtain ⟨a, q, hq, hs⟩ := bind_ok hs
      obtain ⟨q', hq', halong⟩ := h.advance hlen hleft hright hq
      cases hs
      exact ⟨q', bind_of_ok hq' _, halong⟩
  · rw [if_neg hnext] at hs
    rw [if_neg (hhead.not.mp hnext)]
    cases hs
    exact ⟨r', rfl, h⟩

lemma exact_accept {x : Char} (hx : x ≠ ')') : Exact c n (accept x) (accept x) where
  step hr h := by
    obtain ⟨s', hs', halong⟩ := hr.accept hx h
    exact ⟨s', hs', halong.mono (by split <;> omega)⟩

lemma takeWhile_stop {p : Char → Bool} (h : ∀ x, r.tokens.head? = some (.char x) → p x = false)
    (k : Nat) : takeWhile p k r = .ok ([], r) := by
  cases k with
  | zero => rfl
  | succ k =>
    unfold takeWhile
    rw [peek_bind]
    cases hhead : r.tokens.head? with
    | none => rfl
    | some t =>
      cases t with
      | char x =>
        dsimp only
        rw [h x hhead]
        rfl
      | escape x => rfl
      | dangling => rfl

lemma takeWhile_more {p : Char → Bool} {x : Char} (hhead : r.tokens.head? = some (.char x))
    (hx : p x = true) (k : Nat) :
    takeWhile p (k + 1) r = (do advance; return x :: (← takeWhile p k) : Reading Text) r := by
  conv_lhs => unfold takeWhile
  rw [peek_bind, hhead]
  dsimp only
  rw [if_pos hx]

lemma exact_takeWhile {p : Char → Bool} (hp : p ')' = false) {k k' : Nat}
    (hk : k = k' ∨ n ≤ k + 1 ∧ n ≤ k' + 1) : Exact c n (takeWhile p k) (takeWhile p k') := by
  induction k generalizing k' n with
  | zero =>
    constructor
    intro r r' a s hr h
    cases h
    rcases hk with rfl | ⟨hk, -⟩
    · exact ⟨r', rfl, hr⟩
    · rcases hr.cases with ⟨-, hright⟩ | ⟨t, ts, hlen, -, -⟩
      · refine ⟨r', takeWhile_stop (fun x hx => ?_) k', hr⟩
        rw [hright] at hx
        obtain rfl : x = ')' := by simpa using c.right_stops _ hx
        exact hp
      · omega
  | succ k ih =>
    constructor
    intro r r' a s hr h
    by_cases hnext : ∃ x, r.tokens.head? = some (.char x) ∧ p x = true
    · obtain ⟨x, hhead, hx⟩ := hnext
      rcases hr.cases with ⟨hleft, -⟩ | ⟨t, ts, hlen, hleft, hright⟩
      · rw [hleft] at hhead
        obtain rfl : x = ')' := by simpa using c.left_stops _ hhead
        simp [hp] at hx
      · have hhead' : r'.tokens.head? = some (.char x) := by simpa [hleft, hright] using hhead
        obtain ⟨k', rfl⟩ : ∃ j, k' = j + 1 := ⟨k' - 1, by omega⟩
        rw [takeWhile_more hhead hx] at h
        rw [takeWhile_more hhead' hx]
        obtain ⟨u, q, hq, h⟩ := bind_ok h
        obtain ⟨q', hq', halong⟩ := hr.advance hlen hleft hright hq
        obtain ⟨ds, q₂, hds, h⟩ := bind_ok h
        have hrest : Exact c (n - 1) (takeWhile p k) (takeWhile p k') := ih (by omega)
        obtain ⟨s', hs', halong⟩ := hrest.step halong hds
        cases h
        refine ⟨s', ?_, halong.mono (Nat.sub_le _ _)⟩
        rw [bind_of_ok hq', bind_of_ok hs']
        rfl
    · have hstop : ∀ x, r.tokens.head? = some (.char x) → p x = false := by
        intro x hx
        simpa using fun hpx => hnext ⟨x, hx, hpx⟩
      rw [takeWhile_stop hstop] at h
      cases h
      refine ⟨r', takeWhile_stop (fun x hx => ?_) k', hr⟩
      by_cases hparen : x = ')'
      · rw [hparen, hp]
      · exact hstop x ((hr.head?_iff (by simpa using hparen)).mpr hx)

instance (k : Nat) : Exact c n (takeWhile isOctal k) (takeWhile isOctal k) :=
  exact_takeWhile (by decide) (Or.inl rfl)

instance (k : Nat) : Exact c n (takeWhile isHex k) (takeWhile isHex k) :=
  exact_takeWhile (by decide) (Or.inl rfl)

instance (k : Nat) : Exact c n (takeWhile Char.isDigit k) (takeWhile Char.isDigit k) :=
  exact_takeWhile (by decide) (Or.inl rfl)

lemma exact_takeAll {p : Char → Bool} (hp : p ')' = false) :
    Exact c n (takeAll p) (takeAll p) := by
  unfold takeAll
  exact .get_bind fun _ _ hl hr => exact_takeWhile hp (Or.inr ⟨hl, hr⟩)

instance : Exact c n groupCount groupCount := by
  unfold groupCount
  refine .get_bind fun h _ _ _ => ?_
  rw [h.groups]
  infer_instance

instance (group : Nat) : Exact c n (closedWidth? group) (closedWidth? group) := by
  unfold closedWidth?
  refine .get_bind fun h _ _ _ => ?_
  rw [h.groups]
  infer_instance

instance (group : Nat) : Exact c n (checkLookbehind group) (checkLookbehind group) := by
  unfold checkLookbehind
  refine .get_bind fun h _ _ _ => ?_
  rw [h.lookbehind]
  split <;> infer_instance

instance (mode : Mode) (group pos pos' : Nat) :
    Exact c n (reference mode group pos) (reference mode group pos') := by
  unfold reference
  refine .bind inferInstance fun w => ?_
  cases w <;> infer_instance

instance (x : Char) (k : Nat) : Exact c n (hexEscape x k) (hexEscape x k) := by
  unfold hexEscape
  infer_instance

instance (name : Text) : Exact c n (namedCode name) (namedCode name) := by
  unfold namedCode
  refine .get_bind fun h _ _ _ => ?_
  rw [h.charNames]
  split <;> infer_instance

instance (ds : Text) : Exact c n (octalEscape ds) (octalEscape ds) := by
  unfold octalEscape
  infer_instance

instance (mode : Mode) (x : Char) : Exact c n (digitEscape mode x) (digitEscape mode x) := by
  unfold digitEscape
  infer_instance

instance (digits : Text) : Exact c n (count? digits) (count? digits) := by
  unfold count?
  infer_instance

lemma exact_set (h : c.Along n r r') :
    Exact c n (set r : Reading PUnit) (set r' : Reading PUnit) :=
  .modify fun _ _ _ => h

instance : Exact c n bounds? bounds? := by
  unfold bounds?
  refine .get_bind fun {r r' k} h _ _ _ => ?_
  refine .ite (h.head?_iff (by simp)) inferInstance (.bind (exact_takeAll (by decide)) fun low => ?_)
  refine .bind (exact_accept (by decide)) fun comma => ?_
  have hclose : ∀ m m' : Reading (Option (Nat × Option Nat)), Exact c k m m' →
      Exact c k (do if ← accept '\x7d' then m else do set r; return none)
        (do if ← accept '\x7d' then m' else do set r'; return none) := by
    intro m m' hm
    have hset := exact_set h
    exact .bind (exact_accept (by decide)) fun b => inferInstance
  refine .ite Iff.rfl (.bind (exact_takeAll (by decide)) fun high => hclose _ _ inferInstance) ?_
  exact .bind inferInstance fun high => hclose _ _ inferInstance

instance (x : Char) : Exact c n (quantifier? x) (quantifier? x) := by
  unfold quantifier?
  split <;> infer_instance

instance : Exact c n greed greed := by
  have hlazy : Exact c n (accept '?') (accept '?') := exact_accept (by decide)
  have hpossessive : Exact c n (accept '+') (accept '+') := exact_accept (by decide)
  unfold greed
  infer_instance

instance (items : List Item) (least : Nat) (most : Option Nat) (pos pos' : Nat) :
    Exact c n (repeatLast items least most pos) (repeatLast items least most pos') := by
  unfold repeatLast
  dsimp only
  split <;> infer_instance

instance (name : Option Text) (pos pos' : Nat) :
    Exact c n (openGroup name pos) (openGroup name pos') := by
  unfold openGroup
  refine .bind inferInstance fun group => .bind (.modify fun r r' h => ?_) fun _ => ?_
  · exact { h with groups := by simp [h.groups] }
  · cases name with
    | none => infer_instance
    | some name =>
      refine .get_bind fun h _ _ _ => ?_
      rw [h.names]
      split
      · infer_instance
      · refine .bind (.modify fun r r' h => ?_) inferInstance
        exact { h with names := by simp [h.names] }

instance (group : Nat) (width : Width) :
    Exact c n (closeGroup group width) (closeGroup group width) :=
  .modify fun r r' h => { h with groups := by simp [h.groups] }

end Exact

section Follows

variable {R : α → α → Prop}

lemma Follows.of_refuses {m m' : Reading α} (hm : Refuses m) : Follows c lenient n R m m' where
  forward := ⟨fun h => (hm.refuses h).elim⟩
  step _ h := (hm.refuses h).elim

instance (m m' : Reading α) [hm : Refuses m] : Follows c lenient n R m m' :=
  .of_refuses hm

lemma Follows.of_exact {m m' : Reading α} (hm : Exact c n m m') (hforward : Forward m) :
    Follows c lenient n Eq m m' where
  forward := hforward
  step hr h :=
    have ⟨s', hs', hs⟩ := hm.step hr h
    Or.inr ⟨_, s', hs', rfl, hs⟩

instance (m m' : Reading α) [hm : Exact c n m m'] [hforward : Forward m] :
    Follows c lenient n Eq m m' :=
  .of_exact hm hforward

lemma Follows.pure {a b : α} (h : R a b) : Follows c lenient n R (pure a) (pure b) where
  forward := inferInstance
  step hr hs := by
    cases hs
    exact Or.inr ⟨b, _, rfl, h, hr⟩

lemma Follows.imp {S : α → α → Prop} {m m' : Reading α} (h : Follows c lenient n R m m')
    (hS : ∀ a b, R a b → S a b) : Follows c lenient n S m m' where
  forward := h.forward
  step hr hs := (h.step hr hs).imp_right fun ⟨a', s', hs', ha, halong⟩ =>
    ⟨a', s', hs', hS _ _ ha, halong⟩

lemma Follows.mono {m m' : Reading α} {k : Nat} (h : Follows c lenient n R m m') (hk : k ≤ n) :
    Follows c lenient k R m m' where
  forward := h.forward
  step {r r' a s} hr hs := by
    refine (h.step (hr.mono hk) hs).imp_right fun ⟨a', s', hs', ha, halong⟩ =>
      ⟨a', s', hs', ha, { halong with tokens := ?_ }⟩
    obtain ⟨ts, hlen, hleft, -⟩ := hr.tokens
    obtain ⟨us, -, hus, hus'⟩ := halong.tokens
    have hle := (h.forward.onward hs).length_le
    rw [hleft, hus, List.length_append, List.length_append] at hle
    exact ⟨us, by omega, hus, hus'⟩

lemma Lost.weaken (h : c.Lost lenient r) : c.Lost true r :=
  h.imp_right (Or.imp_right fun h => ⟨rfl, h.2⟩)

lemma Follows.weaken {m m' : Reading α} (h : Follows c lenient n R m m') :
    Follows c true n R m m' where
  forward := h.forward
  step hr hs := (h.step hr hs).imp_left Lost.weaken

lemma Follows.zero {m m' : Reading α} (hm : Forward m) : Follows c lenient 0 R m m' where
  forward := hm
  step hr _ :=
    have ⟨_, hlen, _⟩ := hr.tokens
    (Nat.not_lt_zero _ hlen).elim

lemma Follows.bind_of {S : β → β → Prop} {m m' : Reading α} {f f' : α → Reading β}
    (hm : Follows c lenient n R m m') (hR : ∀ a, Forward (f a) ∨ R a a)
    (hf : ∀ a a', R a a' → Follows c lenient n S (f a) (f' a')) :
    Follows c lenient n S (m >>= f) (m' >>= f') :=
  have hforward : ∀ a, Forward (f a) := fun a => (hR a).elim id fun h => (hf a a h).forward
  { forward := hm.forward.bind hforward
    step := by
      intro r r' b s hr h
      obtain ⟨a, q, hq, hs⟩ := bind_ok h
      rcases hm.step hr hq with hlost | ⟨a', q', hq', ha, halong⟩
      · exact Or.inl (hlost.onward ((hforward a).onward hs))
      · rw [bind_of_ok hq']
        exact (hf a a' ha).step halong hs }

lemma Follows.bind {S : β → β → Prop} {m m' : Reading α} {f f' : α → Reading β}
    (hm : Follows c lenient n Eq m m') (hf : ∀ a, Follows c lenient n S (f a) (f' a)) :
    Follows c lenient n S (m >>= f) (m' >>= f') :=
  hm.bind_of (fun _ => Or.inr rfl) fun a _ h => h ▸ hf a

instance (S : β → β → Prop) (m m' : Reading α) (f f' : α → Reading β)
    [hm : Follows c lenient n Eq m m'] [hf : ∀ a, Follows c lenient n S (f a) (f' a)] :
    Follows c lenient n S (m >>= f) (m' >>= f') :=
  hm.bind hf

lemma Follows.ite {p : Prop} [Decidable p] {m m' k k' : Reading α}
    (hm : Follows c lenient n R m m') (hk : Follows c lenient n R k k') :
    Follows c lenient n R (if p then m else k) (if p then m' else k') := by
  split
  · exact hm
  · exact hk

lemma Follows.guard {p : Prop} [Decidable p] {m m' : Reading Unit} {f f' : Unit → Reading α}
    (hm : Follows c lenient n Eq m m') (hf : ∀ u, Follows c lenient n R (f u) (f' u)) :
    Follows c lenient n R (if p then m >>= f else f ()) (if p then m' >>= f' else f' ()) :=
  .ite (hm.bind hf) (hf ())

lemma Follows.branch {S : β → β → Prop} {p : Prop} [Decidable p] {m m' k k' : Reading α}
    {f f' : α → Reading β} (hm : Follows c lenient n R m m') (hk : Follows c lenient n R k k')
    (hR : ∀ a, Forward (f a) ∨ R a a)
    (hf : ∀ a a', R a a' → Follows c lenient n S (f a) (f' a')) :
    Follows c lenient n S (if p then m >>= f else k >>= f) (if p then m' >>= f' else k' >>= f') :=
  .ite (hm.bind_of hR hf) (hk.bind_of hR hf)

lemma Follows.tell_bind {f f' : Nat → Reading α}
    (hf : ∀ p p', Follows c lenient n R (f p) (f' p')) :
    Follows c lenient n R (tell >>= f) (tell >>= f') where
  forward := Forward.bind inferInstance fun p => (hf p p).forward
  step {r r' _ _} hr h := (hf r.pos r'.pos).step hr h

lemma Follows.get_bind {f f' : Reader → Reading α} (hforward : ∀ r, Forward (f r))
    (hf : ∀ {r r' k}, c.Along k r r' → k ≤ n → k ≤ r.tokens.length + 1 →
      k ≤ r'.tokens.length + 1 → Follows c lenient k R (f r) (f' r')) :
    Follows c lenient n R (get >>= f) (get >>= f') where
  forward := Forward.bind inferInstance hforward
  step {r r' a s} hr h := by
    obtain ⟨ts, hlen, hleft, hright⟩ := hr.tokens
    have halong : c.Along (ts.length + 1) r r' :=
      { hr with tokens := ⟨ts, Nat.lt_succ_self _, hleft, hright⟩ }
    refine ((hf halong hlen (by simp [hleft]) (by simp [hright])).step halong h).imp_right ?_
    rintro ⟨a', s', hs', ha, hs⟩
    exact ⟨a', s', hs', ha, hs.mono hlen⟩

lemma Follows.bind_closes {S : β → β → Prop} {m m' : Reading α} {f f' : α → Reading β}
    (hm : Follows c true n Eq m m') (hcloses : ∀ a, Closes (f a))
    (hf : ∀ a, Follows c lenient n S (f a) (f' a)) :
    Follows c lenient n S (m >>= f) (m' >>= f') where
  forward := hm.forward.bind fun a => (hf a).forward
  step hr h := by
    obtain ⟨a, q, hq, hs⟩ := bind_ok h
    rcases hm.step hr hq with hlost | ⟨a', q', hq', rfl, halong⟩
    · rcases hlost with hlost | hlost | ⟨-, hend⟩
      · exact Or.inl (Lost.onward (Or.inl hlost) ((hf a).forward.onward hs))
      · exact Or.inl (Lost.onward (Or.inr (Or.inl hlost)) ((hf a).forward.onward hs))
      · exact ((hcloses a).closes hend hs).elim
    · rw [bind_of_ok hq']
      exact (hf a).step halong hs

end Follows

section Tokens

variable {R : α → α → Prop}

lemma not_left_suffix {t : Token} {ts : List Token} (h : c.left = t :: ts) : ¬ c.left <:+ ts := by
  intro hsuffix
  have hle := hsuffix.length_le
  rw [h, List.length_cons] at hle
  omega

lemma lost_of_advance {a : Unit} {t : Token} {ts : List Token} (hr : r.tokens = c.left)
    (hleft : c.left = t :: ts) (hs : advance r = .ok (a, s)) : c.Lost lenient s := by
  rw [advance_cons (hr.trans hleft)] at hs
  split at hs
  · cases hs
  · cases hs
    exact Or.inl (not_left_suffix hleft)

lemma Follows.next_bind_or {f f' : Option Token → Reading α}
    (hend : lenient = true ∨ Refuses (f none)) (hnone : Forward (f none))
    (hsome : ∀ t, Follows c lenient (n - 1) R (f (some t)) (f' (some t))) :
    Follows c lenient n R (next >>= f) (next >>= f') where
  forward := Forward.bind inferInstance fun a => by
    cases a with
    | none => exact hnone
    | some t => exact (hsome t).forward
  step {r r' a s} hr h := by
    obtain ⟨x, q, hq, hs⟩ := bind_ok h
    obtain ⟨rfl, hadvance⟩ := next_ok hq
    rcases hr.cases with ⟨hleft, -⟩ | ⟨t, ts, hlen, hleft, hright⟩
    · cases hseam : c.left with
      | nil =>
        rw [hleft, hseam] at hs
        rcases hend with hlenient | hrefuses
        · have hnil : r.tokens = [] := hleft.trans hseam
          rw [advance_nil hnil] at hadvance
          cases hadvance
          exact Or.inl (Lost.onward (Or.inr (Or.inr ⟨hlenient, hnil⟩)) (hnone.onward hs))
        · exact (hrefuses.refuses hs).elim
      | cons t ts =>
        rw [hleft, hseam] at hs
        have hlost : c.Lost lenient q := lost_of_advance hleft hseam hadvance
        exact Or.inl (hlost.onward ((hsome t).forward.onward hs))
    · obtain ⟨q', hq', halong⟩ := hr.advance hlen hleft hright hadvance
      rw [hleft] at hs
      rw [bind_of_ok (next_of_advance hq'), hright]
      refine ((hsome t).step halong hs).imp_right ?_
      rintro ⟨a', s', hs', ha, halong⟩
      exact ⟨a', s', hs', ha, halong.mono (Nat.sub_le _ _)⟩

lemma Follows.next_bind {f f' : Option Token → Reading α} (hnone : Refuses (f none))
    (hsome : ∀ t, Follows c lenient (n - 1) R (f (some t)) (f' (some t))) :
    Follows c lenient n R (next >>= f) (next >>= f') :=
  .next_bind_or (Or.inr hnone) ⟨fun h => (hnone.refuses h).elim⟩ hsome

lemma Follows.accept_ite {x : Char} {m m' k k' : Reading α} (hx : x ≠ ')')
    (hm : Follows c lenient (n - 1) R m m') (hk : Follows c lenient n R k k') :
    Follows c lenient n R (do if ← accept x then m else k) (do if ← accept x then m' else k') where
  forward := Forward.bind inferInstance fun _ => hm.forward.ite hk.forward
  step hr h := by
    obtain ⟨b, q, hq, hs⟩ := bind_ok h
    obtain ⟨q', hq', halong⟩ := hr.accept hx hq
    rw [bind_of_ok hq']
    cases b with
    | true =>
      refine (hm.step halong hs).imp_right ?_
      rintro ⟨a', s', hs', ha, halong⟩
      exact ⟨a', s', hs', ha, halong.mono (Nat.sub_le _ _)⟩
    | false => exact hk.step halong hs

lemma Follows.peek_bind {f f' : Option Token → Reading α}
    (hstop : ∀ a a', (∀ t ∈ a, t = .char ')') → (∀ t ∈ a', t = .char ')') →
      Follows c lenient n R (f a) (f' a'))
    (hsome : ∀ t, Follows c lenient n R (f (some t)) (f' (some t)) ∨
      ∃ g g', f (some t) = (advance >>= g) ∧ f' (some t) = (advance >>= g') ∧
        ∀ u, Follows c lenient (n - 1) R (g u) (g' u)) :
    Follows c lenient n R (peek >>= f) (peek >>= f') where
  forward := Forward.bind inferInstance fun a => by
    cases a with
    | none => exact (hstop none none (by simp) (by simp)).forward
    | some t =>
      rcases hsome t with h | ⟨g, g', hg, -, h⟩
      · exact h.forward
      · rw [hg]
        exact Forward.bind inferInstance fun u => (h u).forward
  step {r r' a s} hr h := by
    rw [Reading.peek_bind] at h ⊢
    rcases hr.cases with ⟨hleft, hright⟩ | ⟨t, ts, hlen, hleft, hright⟩
    · refine (hstop _ _ ?_ ?_).step hr h
      · rw [hleft]
        exact c.left_stops
      · rw [hright]
        exact c.right_stops
    · rw [hleft] at h
      rw [hright]
      rcases hsome t with hstep | ⟨g, g', hg, hg', hstep⟩
      · exact hstep.step hr h
      · have h : f (some t) r = .ok (a, s) := h
        rw [hg] at h
        obtain ⟨u, q, hq, hs⟩ := bind_ok h
        obtain ⟨q', hq', halong⟩ := hr.advance hlen hleft hright hq
        change c.Lost lenient s ∨ ∃ a' s', f' (some t) r' = .ok (a', s') ∧ _
        rw [hg', bind_of_ok hq']
        refine ((hstep u).step halong hs).imp_right ?_
        rintro ⟨a', s', hs', ha, halong⟩
        exact ⟨a', s', hs', ha, halong.mono (Nat.sub_le _ _)⟩

end Tokens

end Seam

end LineShell.Pattern
