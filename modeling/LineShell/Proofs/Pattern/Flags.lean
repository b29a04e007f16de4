import LineShell.Proofs.Pattern.Progress

namespace LineShell.Pattern

namespace Reading

variable {α β : Type}

def Ensures (Φ : Reader → α → Reader → Prop) (m : Reading α) : Prop :=
  ∀ {r a s}, m r = .ok (a, s) → Φ r a s

lemma Ensures.apply (Φ : Reader → α → Reader → Prop) {m : Reading α} {r s : Reader} {a : α}
    (h : m r = .ok (a, s)) (hm : Ensures Φ m) : Φ r a s :=
  hm h

class KeepsFlags (P : α → Prop) (m : Reading α) : Prop where
  flags : ∀ {r a s}, m r = .ok (a, s) → P a ∨ s.flags = r.flags

section

variable {P : α → Prop}

instance (m : Reading α) [hm : Steady m] : KeepsFlags P m where
  flags h := Or.inr (hm.flags h)

lemma KeepsFlags.bind {m : Reading β} {f : β → Reading α} (hm : Steady m)
    (hf : ∀ b, KeepsFlags P (f b)) : KeepsFlags P (m >>= f) where
  flags h := by
    obtain ⟨b, q, hq, h⟩ := bind_ok h
    exact ((hf b).flags h).imp_right fun hflags => hflags.trans (hm.flags hq)

lemma KeepsFlags.bind_of {Q : β → Prop} {m : Reading β} {f : β → Reading α}
    (hm : KeepsFlags Q m) (hQ : ∀ {b q a s}, Q b → f b q = .ok (a, s) → P a)
    (hf : ∀ b, KeepsFlags P (f b)) : KeepsFlags P (m >>= f) where
  flags h := by
    obtain ⟨b, q, hq, h⟩ := bind_ok h
    rcases hm.flags hq with hb | hflags
    · exact Or.inl (hQ hb h)
    · exact ((hf b).flags h).imp_right fun hs => hs.trans hflags

lemma KeepsFlags.ite {c : Prop} [Decidable c] {m k : Reading α} (hm : KeepsFlags P m)
    (hk : KeepsFlags P k) : KeepsFlags P (if c then m else k) := by
  split
  · exact hm
  · exact hk

lemma KeepsFlags.branch {c : Prop} [Decidable c] {Q : β → Prop} {m k : Reading β}
    {f : β → Reading α} (hm : KeepsFlags Q m) (hk : KeepsFlags Q k)
    (hQ : ∀ {b q a s}, Q b → f b q = .ok (a, s) → P a) (hf : ∀ b, KeepsFlags P (f b)) :
    KeepsFlags P (if c then m >>= f else k >>= f) :=
  .ite (hm.bind_of hQ hf) (hk.bind_of hQ hf)

lemma Steady.ite_of {c : Prop} [Decidable c] {m k : Reading α} (hm : c → Steady m)
    (hk : Steady k) : Steady (if c then m else k) := by
  by_cases hc : c
  · rw [if_pos hc]
    exact hm hc
  · rw [if_neg hc]
    exact hk

lemma Steady.bind_of {m : Reading β} {f : β → Reading α} {Q : β → Prop} (hm : Steady m)
    (hQ : ∀ {r b s}, m r = .ok (b, s) → Q b) (hf : ∀ b, Q b → Steady (f b)) :
    Steady (m >>= f) where
  onward h := by
    obtain ⟨b, q, hq, h⟩ := bind_ok h
    exact (hm.onward hq).trans ((hf b (hQ hq)).onward h)
  flags h := by
    obtain ⟨b, q, hq, h⟩ := bind_ok h
    exact ((hf b (hQ hq)).flags h).trans (hm.flags hq)

end

lemma keepsFlags_inlineFlags (t : Token) : KeepsFlags (· = none) (inlineFlags t) := by
  unfold inlineFlags
  refine .bind inferInstance fun r => .bind inferInstance fun p => ?_
  obtain ⟨on, c⟩ := p
  refine .ite ⟨fun h => ?_⟩ inferInstance
  cases h
  exact Or.inl rfl

lemma keepsFlags_extension (mode : Mode) (start : Nat) :
    KeepsFlags (· = .flags) (extension mode start) := by
  unfold extension
  refine .bind inferInstance fun a => ?_
  split
  · infer_instance
  · refine .bind inferInstance fun b => .ite inferInstance (.bind inferInstance fun b => ?_)
    refine .ite inferInstance (.bind inferInstance fun a => ?_)
    cases a <;> infer_instance
  · infer_instance
  · infer_instance
  · infer_instance
  · infer_instance
  · infer_instance
  · refine .bind inferInstance fun a => ?_
    split <;> infer_instance
  · infer_instance
  · refine .ite ((keepsFlags_inlineFlags _).bind_of ?_ fun p => ?_) inferInstance
    · rintro _ q a s rfl h
      cases h
      rfl
    · cases p with
      | none => infer_instance
      | some p => infer_instance

section

variable {seq : Mode → Bool → Bool → Reading (List Node)}

lemma steady_alternativesFrom (hseq : ∀ mode verbose, Steady (seq mode verbose false)) (fuel : Nat)
    (mode : Mode) (verbose : Bool) {whole : Bool} {read : List (List Node)}
    (h : whole = false ∨ read ≠ []) :
    Steady (alternativesFrom seq whole fuel mode verbose read) := by
  induction fuel generalizing mode verbose read with
  | zero =>
    unfold alternativesFrom
    infer_instance
  | succ fuel ih =>
    have hfirst : (whole && read.isEmpty) = false := by
      rcases h with rfl | h
      · rfl
      · simp [h]
    have hmore (ns : List Node) (mode : Mode) (verbose : Bool) :
        Steady (alternativesFrom seq whole fuel mode verbose (read ++ [ns])) :=
      ih mode verbose (Or.inr (by simp))
    unfold alternativesFrom
    rw [hfirst]
    exact Steady.bind (hseq _ _) fun ns => inferInstance

lemma steady_alternatives (hseq : ∀ mode verbose, Steady (seq mode verbose false)) (mode : Mode)
    (verbose : Bool) : Steady (alternatives seq false mode verbose) := by
  have hfrom (fuel : Nat) : Steady (alternativesFrom seq false fuel mode verbose []) :=
    steady_alternativesFrom hseq fuel mode verbose (Or.inl rfl)
  unfold alternatives
  infer_instance

lemma keepsFlags_group (hseq : ∀ mode verbose, Steady (seq mode verbose false)) (mode : Mode)
    (verbose : Bool) (start : Nat) : KeepsFlags (· = none) (group seq mode verbose start) := by
  have halternatives := steady_alternatives hseq
  have hlook := steady_setLookbehind
  unfold group
  refine .bind inferInstance fun b => .branch (keepsFlags_extension mode start) inferInstance ?_ ?_
  · rintro _ q a s rfl h
    cases h
    rfl
  · intro opening
    cases opening with
    | condition =>
      refine .bind inferInstance fun g => .bind inferInstance fun yes => ?_
      exact .bind inferInstance fun b => .ite inferInstance inferInstance
    | done n => cases n <;> infer_instance
    | _ => infer_instance

end

lemma repeatLast_ne_nil {items new : List Item} {least : Nat} {most : Option Nat} {pos : Nat}
    {r s : Reader} (h : repeatLast items least most pos r = .ok (new, s)) : new ≠ [] := by
  have hlast (body : Node) {q : Reader} (h : (do
      return items.dropLast ++ [.node (.rep (← greed) least most body)] : Reading _) q =
      .ok (new, s)) : new ≠ [] := by
    obtain ⟨g, q', -, h⟩ := bind_ok h
    cases h
    simp
  unfold repeatLast at h
  cases hitem : items.getLast? with
  | none =>
    rw [hitem] at h
    cases h
  | some item =>
    rw [hitem] at h
    cases item with
    | spliced ns => exact hlast _ h
    | node n =>
      cases n with
      | anchor _ _ => cases h
      | rep _ _ _ _ => cases h
      | _ => exact hlast _ h

lemma sequence_group {r q : Reader} {k : Nat} {items : List Item} {mode : Mode}
    {verbose first : Bool} (hhead : r.tokens.head? = some (.char '('))
    (hadvance : advance r = .ok ((), q)) :
    sequence (k + 1) items mode verbose first r =
      (do
        let new ← group (sequence k []) mode verbose (q.pos - 1)
        new.elim
          (do
            if !first || !items.isEmpty then failAt .lateFlags (q.pos - 1)
            let flags := (← get).flags
            sequence k items (.ofFlags flags) (flags.contains .verbose) first)
          fun new => sequence k (items ++ new) mode verbose first) q := by
  conv_lhs => unfold sequence
  rw [peek_bind, hhead]
  change (advance >>= _) r = _
  rw [bind_of_ok hadvance]
  have hlayout : isLayout '(' = false := by decide
  dsimp only
  rw [if_neg (by simp [hlayout]), if_neg (by simp), if_neg (by decide), if_neg (by decide),
    if_neg (by decide), if_neg (by decide), if_neg (by decide), if_pos rfl, tell_bind]
  refine congrFun (congrArg _ (funext fun new => ?_)) q
  cases new <;> rfl

lemma sequence_group_ok {r s : Reader} {k : Nat} {items : List Item} {mode : Mode}
    {verbose first : Bool} {ns : List Node} (hhead : r.tokens.head? = some (.char '('))
    (h : sequence (k + 1) items mode verbose first r = .ok (ns, s)) :
    ∃ q new q', advance r = .ok ((), q) ∧
      group (sequence k []) mode verbose (q.pos - 1) q = .ok (new, q') ∧
      (new = none ∧ first = true ∧ items = [] ∧
          sequence k [] (.ofFlags q'.flags) (q'.flags.contains .verbose) true q' = .ok (ns, s) ∨
        ∃ more, new = some more ∧ sequence k (items ++ more) mode verbose first q' = .ok (ns, s)) := by
  have hopening : ∃ q, advance r = .ok ((), q) := by
    unfold sequence at h
    rw [peek_bind, hhead] at h
    change (advance >>= _) r = _ at h
    obtain ⟨_, q, hq, -⟩ := bind_ok h
    exact ⟨q, hq⟩
  obtain ⟨q, hq⟩ := hopening
  rw [sequence_group hhead hq] at h
  obtain ⟨new, q', hnew, h⟩ := bind_ok h
  refine ⟨q, new, q', hq, hnew, ?_⟩
  cases new with
  | some more => exact Or.inr ⟨more, rfl, h⟩
  | none =>
    dsimp only [Option.elim] at h
    by_cases hlate : (!first || !items.isEmpty) = true
    · rw [if_pos hlate] at h
      cases h
    · rw [if_neg hlate] at h
      obtain ⟨rfl, rfl⟩ : first = true ∧ items = [] := by simpa using hlate
      exact Or.inl ⟨rfl, rfl, rfl, h⟩

lemma flags_sequence_of_group {r s : Reader} {k : Nat} {items : List Item} {mode : Mode}
    {verbose first : Bool} {ns : List Node}
    (hsame : verbose = true → Steady (sequence k items mode verbose first))
    (hmore : ∀ {items}, items ≠ [] → Steady (sequence k items mode verbose first))
    (hgroup : r.tokens.head? = some (.char '(') → s.flags = r.flags)
    (h : sequence (k + 1) items mode verbose first r = .ok (ns, s)) : s.flags = r.flags := by
  by_cases hhead : r.tokens.head? = some (.char '(')
  · exact hgroup hhead
  · have hitem (n : Node) : Steady (sequence k (items ++ [.node n]) mode verbose first) :=
      hmore (by simp)
    unfold sequence at h
    rw [peek_bind] at h
    generalize r.tokens.head? = head at hhead h
    refine Ensures.apply (fun r _ s => s.flags = r.flags) h ?_
    split
    · exact Steady.flags
    · exact Steady.flags
    · exact Steady.flags
    · refine (Steady.bind inferInstance fun _ => ?_).flags
      split
      · infer_instance
      · infer_instance
      · have hverbose {b : Bool} (hv : (verbose && b) = true) := hsame ((Bool.and_eq_true_iff.mp hv).1)
        refine Steady.ite_of hverbose (Steady.ite_of (fun hv => ?_) ?_)
        · have hskip := hverbose hv
          infer_instance
        · refine Steady.ite inferInstance (Steady.ite inferInstance (Steady.ite inferInstance ?_))
          refine Steady.ite inferInstance (Steady.ite inferInstance (Steady.ite_of ?_ ?_))
          · rintro rfl
            exact absurd rfl hhead
          · refine Steady.bind inferInstance fun pos => Steady.bind inferInstance fun bounds => ?_
            cases bounds with
            | none => infer_instance
            | some bounds => exact Steady.bind_of inferInstance repeatLast_ne_nil fun _ => hmore

lemma steady_sequence (fuel : Nat) {items : List Item} {first : Bool}
    (h : first = false ∨ items ≠ []) (mode : Mode) (verbose : Bool) :
    Steady (sequence fuel items mode verbose first) := by
  induction fuel generalizing items mode verbose first with
  | zero =>
    unfold sequence
    infer_instance
  | succ fuel ih =>
    refine { onward := Forward.onward, flags := fun {r ns s} hs => ?_ }
    refine flags_sequence_of_group (fun _ => ih h mode verbose)
      (fun hitems => ih (Or.inr hitems) mode verbose) (fun hhead => ?_) hs
    obtain ⟨q, new, q', hq, hnew, hrest⟩ := sequence_group_ok hhead hs
    rcases hrest with ⟨-, rfl, rfl, -⟩ | ⟨more, rfl, hrest⟩
    · simp at h
    · have hgroup : KeepsFlags (· = none) (group (sequence fuel []) mode verbose (q.pos - 1)) :=
        keepsFlags_group (fun mode verbose => ih (Or.inl rfl) mode verbose) _ _ _
      have hmore : Steady (sequence fuel (items ++ more) mode verbose first) :=
        ih (h.imp_right fun hitems => by simp [hitems]) mode verbose
      calc s.flags
        _ = q'.flags := hmore.flags hrest
        _ = q.flags := (hgroup.flags hnew).resolve_left (by simp)
        _ = r.flags := Steady.flags hq

end Reading

def FlagLetters (ts rest : List Token) : Prop :=
  ∃ letters : Text, letters ≠ [] ∧ (∀ l ∈ letters, (Flag.ofChar? l).isSome = true) ∧
    ts = letters.map .char ++ .char ')' :: rest

def CommentText (ts rest : List Token) : Prop :=
  ∃ cs, .char ')' ∉ cs ∧ ts = .char '#' :: cs ++ .char ')' :: rest

/-- The text starts with flags for the whole pattern, with nothing but comments in front of them. -/
inductive OpensWithFlags : List Token → Prop
  | flags {ts rest : List Token} (h : FlagLetters ts rest) :
      OpensWithFlags (.char '(' :: .char '?' :: ts)
  | comment {ts rest : List Token} (hcomment : CommentText ts rest) (h : OpensWithFlags rest) :
      OpensWithFlags (.char '(' :: .char '?' :: ts)

lemma opensWithFlags_iff {ts : List Token} :
    OpensWithFlags ts ↔ ∃ us, ts = .char '(' :: .char '?' :: us ∧
      ((∃ rest, FlagLetters us rest) ∨ ∃ rest, CommentText us rest ∧ OpensWithFlags rest) := by
  constructor
  · rintro (hflags | ⟨hcomment, hrest⟩)
    · exact ⟨_, rfl, Or.inl ⟨_, hflags⟩⟩
    · exact ⟨_, rfl, Or.inr ⟨_, hcomment, hrest⟩⟩
  · rintro ⟨us, rfl, ⟨rest, hflags⟩ | ⟨rest, hcomment, hrest⟩⟩
    · exact .flags hflags
    · exact .comment hcomment hrest

lemma FlagLetters.head {t : Token} {ts rest : List Token} (h : FlagLetters (t :: ts) rest) :
    (Reading.flagOf? t).isSome = true := by
  obtain ⟨letters, hne, hletters, hts⟩ := h
  cases letters with
  | nil => exact (hne rfl).elim
  | cons l letters =>
    obtain rfl := (List.cons.inj hts).1
    exact hletters l (by simp)

lemma CommentText.head {t : Token} {ts rest : List Token} (h : CommentText (t :: ts) rest) :
    t = .char '#' := by
  obtain ⟨cs, -, hts⟩ := h
  exact (List.cons.inj hts).1

lemma rest_unique {x : Token} {cs cs' rest rest' : List Token} (hcs : x ∉ cs) (hcs' : x ∉ cs')
    (h : cs ++ x :: rest = cs' ++ x :: rest') : rest = rest' := by
  induction cs generalizing cs' with
  | nil =>
    cases cs' with
    | nil => exact (List.cons.inj h).2
    | cons y cs' =>
      obtain rfl := (List.cons.inj h).1
      simp at hcs'
  | cons y cs ih =>
    cases cs' with
    | nil =>
      obtain rfl := (List.cons.inj h).1
      simp at hcs
    | cons z cs' =>
      simp only [List.mem_cons, not_or] at hcs hcs'
      exact ih hcs.2 hcs'.2 (List.cons.inj h).2

lemma CommentText.unique {ts rest rest' : List Token} (h : CommentText ts rest)
    (h' : CommentText ts rest') : rest = rest' := by
  obtain ⟨cs, hcs, rfl⟩ := h
  obtain ⟨cs', hcs', heq⟩ := h'
  exact rest_unique hcs hcs' (List.cons.inj heq).2

lemma CommentText.not_flagLetters {ts rest rest' : List Token} (h : CommentText ts rest) :
    ¬ FlagLetters ts rest' := by
  obtain ⟨cs, -, rfl⟩ := h
  intro hletters
  exact absurd hletters.head (by decide)

lemma CommentText.opensWithFlags_iff {ts rest : List Token} (h : CommentText ts rest) :
    OpensWithFlags (.char '(' :: .char '?' :: ts) ↔ OpensWithFlags rest := by
  refine ⟨fun hopens => ?_, .comment h⟩
  rcases hopens with hletters | ⟨hcomment, hrest⟩
  · exact absurd hletters h.not_flagLetters
  · exact hcomment.unique h ▸ hrest

namespace Reading

lemma next_cons {r s : Reader} {t : Token} {ts : List Token} {a : Option Token}
    (hr : r.tokens = t :: ts) (h : next r = .ok (a, s)) : a = some t ∧ s.tokens = ts := by
  obtain ⟨rfl, hadvance⟩ := next_ok h
  rcases advance_cases hadvance with ⟨hnil, -⟩ | ⟨u, us, hcons, -, rfl⟩
  · simp [hr] at hnil
  · rw [hr] at hcons
    exact ⟨by rw [hr]; rfl, (List.cons.inj hcons).2.symm⟩

lemma next_some {r s : Reader} {t : Token} (h : next r = .ok (some t, s)) :
    r.tokens = t :: s.tokens := by
  cases hr : r.tokens with
  | nil => simpa [hr] using (next_ok h).1
  | cons u us =>
    obtain ⟨ht, hs⟩ := next_cons hr h
    rw [hs, Option.some.inj ht]

lemma flagOf?_eq_some {t : Token} {f : Flag} (h : flagOf? t = some f) :
    ∃ l, t = .char l ∧ Flag.ofChar? l = some f := by
  cases t with
  | char l => exact ⟨l, rfl, h⟩
  | escape l => cases h
  | dangling => cases h

lemma flagsOn_succ {fuel : Nat} {f : Flag} {on : List Flag} {r s : Reader}
    {p : List Flag × Char} (h : flagsOn (fuel + 1) f on r = .ok (p, s)) :
    ∃ t q, next r = .ok (some t, q) ∧
      ((t = .char p.2 ∧ p.2 ∈ [')', '-', ':'] ∧ p.1 = on ++ [f] ∧ s = q) ∨
        ∃ g, flagOf? t = some g ∧ flagsOn fuel g (on ++ [f]) q = .ok (p, s)) := by
  unfold flagsOn at h
  by_cases hlocale : f = .locale
  · rw [if_pos hlocale] at h
    cases h
  rw [if_neg hlocale] at h
  by_cases halphabet : (f.isAlphabet && on.any fun g => g.isAlphabet && g != f) = true
  · dsimp only at h
    rw [if_pos halphabet] at h
    cases h
  dsimp only at h
  rw [if_neg halphabet] at h
  obtain ⟨a, q, hq, h⟩ := bind_ok h
  cases a with
  | none => cases h
  | some t =>
    dsimp only at h
    refine ⟨t, q, hq, Ensures.apply (fun q p s =>
      (t = .char p.2 ∧ p.2 ∈ [')', '-', ':'] ∧ p.1 = on ++ [f] ∧ s = q) ∨
        ∃ g, flagOf? t = some g ∧ flagsOn fuel g (on ++ [f]) q = .ok (p, s)) h ?_⟩
    split
    · intro q p s h
      cases h
      exact Or.inl ⟨rfl, by simp, rfl, rfl⟩
    · intro q p s h
      cases h
      exact Or.inl ⟨rfl, by simp, rfl, rfl⟩
    · intro q p s h
      cases h
      exact Or.inl ⟨rfl, by simp, rfl, rfl⟩
    · rename_i g _ _ _ hg
      exact fun h => Or.inr ⟨g, hg, h⟩
    · intro q p s h
      cases h

lemma ofChar?_eq_none_of_mem {c : Char} (h : c ∈ [')', '-', ':']) : Flag.ofChar? c = none := by
  simp only [List.mem_cons, List.not_mem_nil, or_false] at h
  rcases h with rfl | rfl | rfl <;> rfl

lemma flagsOn_letters {letters : Text} {ts : List Token}
    (hletters : ∀ l ∈ letters, (Flag.ofChar? l).isSome = true) {fuel : Nat} {f : Flag}
    {on : List Flag} {r s : Reader} {p : List Flag × Char}
    (hr : r.tokens = letters.map .char ++ .char ')' :: ts)
    (h : flagsOn fuel f on r = .ok (p, s)) : p.2 = ')' ∧ p.1 ≠ [] := by
  induction fuel generalizing letters f on r with
  | zero => cases h
  | succ fuel ih =>
    obtain ⟨t, q, hq, hnext⟩ := flagsOn_succ h
    cases letters with
    | nil =>
      obtain ⟨ht, -⟩ := next_cons hr hq
      obtain rfl := Option.some.inj ht
      rcases hnext with ⟨hp, -, hon, -⟩ | ⟨g, hg, -⟩
      · exact ⟨by simpa using hp.symm, by simp [hon]⟩
      · cases hg
    | cons l letters =>
      obtain ⟨ht, hqs⟩ := next_cons hr hq
      obtain rfl := Option.some.inj ht
      obtain ⟨hl, hletters⟩ := List.forall_mem_cons.mp hletters
      rcases hnext with ⟨hp, hend, -, -⟩ | ⟨g, -, hrest⟩
      · obtain rfl : l = p.2 := by simpa using hp
        simp [ofChar?_eq_none_of_mem hend] at hl
      · exact ih hletters hqs hrest

lemma letters_of_flagsOn {fuel : Nat} {f : Flag} {on : List Flag} {r s : Reader}
    {p : List Flag × Char} (h : flagsOn fuel f on r = .ok (p, s)) (hp : p.2 = ')') :
    ∃ letters : Text, (∀ l ∈ letters, (Flag.ofChar? l).isSome = true) ∧
      r.tokens = letters.map .char ++ .char ')' :: s.tokens := by
  induction fuel generalizing f on r with
  | zero => cases h
  | succ fuel ih =>
    obtain ⟨t, q, hq, ⟨rfl, -, -, rfl⟩ | ⟨g, hg, hrest⟩⟩ := flagsOn_succ h
    · exact ⟨[], by simp, by rw [next_some hq, hp]; rfl⟩
    · obtain ⟨l, rfl, hl⟩ := flagOf?_eq_some hg
      obtain ⟨letters, hletters, hr⟩ := ih hrest
      refine ⟨l :: letters, List.forall_mem_cons.mpr ⟨by simp [hl], hletters⟩, ?_⟩
      rw [next_some hq, hr]
      rfl

lemma skipUntil_eq_ok {fuel : Nat} {x : Char} {r s : Reader} {b : Bool}
    (hfuel : r.tokens.length < fuel) (h : skipUntil x fuel r = .ok (b, s)) :
    b = true ∧ (∃ cs, .char x ∉ cs ∧ r.tokens = cs ++ .char x :: s.tokens) ∨
      b = false ∧ .char x ∉ r.tokens := by
  induction fuel generalizing r with
  | zero => omega
  | succ fuel ih =>
    unfold skipUntil at h
    obtain ⟨a, q, hq, h⟩ := bind_ok h
    cases a with
    | none =>
      cases h
      have hnil : r.tokens = [] := by simpa using (next_ok hq).1.symm
      exact Or.inr ⟨rfl, by simp [hnil]⟩
    | some t =>
      have hr := next_some hq
      have h : (if t = .char x then pure true else skipUntil x fuel : Reading Bool) q =
          .ok (b, s) := h
      split at h
      · rename_i ht
        cases h
        exact Or.inl ⟨rfl, [], by simp, by rw [hr, ht]; rfl⟩
      · rename_i ht
        have hlen : q.tokens.length < fuel := by
          rw [hr, List.length_cons] at hfuel
          omega
        rcases ih hlen h with ⟨hb, cs, hcs, hsplit⟩ | ⟨hb, hnot⟩
        · refine Or.inl ⟨hb, t :: cs, ?_, by rw [hr, hsplit]; rfl⟩
          simpa [hcs] using Ne.symm ht
        · refine Or.inr ⟨hb, ?_⟩
          rw [hr]
          simpa [hnot] using Ne.symm ht

lemma leadingFlags_cases {fuel : Nat} {t : Token} {r s : Reader} {p : List Flag × Char}
    (h : leadingFlags fuel t r = .ok (p, s)) :
    p.2 = ')' ∧ p.1 ≠ [] ∧ FlagLetters (t :: r.tokens) s.tokens ∨
      p.2 ≠ ')' ∧ ∀ rest, ¬ FlagLetters (t :: r.tokens) rest := by
  unfold leadingFlags at h
  cases hf : flagOf? t with
  | none =>
    rw [hf] at h
    cases h
    exact Or.inr ⟨by decide, fun rest hletters => by simpa [hf] using hletters.head⟩
  | some f =>
    rw [hf] at h
    obtain ⟨l, rfl, hl⟩ := flagOf?_eq_some hf
    by_cases hp : p.2 = ')'
    · obtain ⟨letters, hletters, hr⟩ := letters_of_flagsOn h hp
      refine Or.inl ⟨hp, (flagsOn_letters hletters hr h).2, l :: letters, by simp, ?_, by rw [hr]; rfl⟩
      exact List.forall_mem_cons.mpr ⟨by simp [hl], hletters⟩
    · refine Or.inr ⟨hp, ?_⟩
      rintro rest ⟨letters, hne, hletters, hr⟩
      cases letters with
      | nil => exact hne rfl
      | cons k letters =>
        have hletters := (List.forall_mem_cons.mp hletters).2
        exact hp (flagsOn_letters hletters (List.cons.inj hr).2 h).1

class Gives (P : α → Prop) (m : Reading α) : Prop where
  gives : ∀ {r a s}, m r = .ok (a, s) → P a

lemma Gives.pure {P : α → Prop} {a : α} (h : P a) : Gives P (pure a : Reading α) where
  gives hs := by
    cases hs
    exact h

instance (a : α) : Gives (· ≠ none) (pure (some a) : Reading (Option α)) :=
  .pure (by simp)

instance (P : α → Prop) (m : Reading α) [hm : Refuses m] : Gives P m where
  gives h := (hm.refuses h).elim

lemma Gives.bind {P : α → Prop} (m : Reading β) {f : β → Reading α} (hf : ∀ b, Gives P (f b)) :
    Gives P (m >>= f) where
  gives h := by
    obtain ⟨b, q, -, h⟩ := bind_ok h
    exact (hf b).gives h

lemma Gives.ite {P : α → Prop} {c : Prop} [Decidable c] {m k : Reading α} (hm : Gives P m)
    (hk : Gives P k) : Gives P (if c then m else k) := by
  split
  · exact hm
  · exact hk

instance (P : α → Prop) (m : Reading β) (f : β → Reading α) [hf : ∀ b, Gives P (f b)] :
    Gives P (m >>= f) :=
  .bind m hf

instance (P : α → Prop) (c : Prop) [Decidable c] (m k : Reading α) [hm : Gives P m]
    [hk : Gives P k] : Gives P (if c then m else k) :=
  .ite hm hk

lemma inlineFlags_cases {t : Token} {r s : Reader} {a : Option (List Flag × List Flag)}
    (h : inlineFlags t r = .ok (a, s)) :
    a = none ∧ FlagLetters (t :: r.tokens) s.tokens ∧ r.flags.length < s.flags.length ∨
      a ≠ none ∧ ∀ rest, ¬ FlagLetters (t :: r.tokens) rest := by
  unfold inlineFlags at h
  rw [get_bind] at h
  obtain ⟨⟨on, c⟩, q, hq, h⟩ := bind_ok h
  rcases leadingFlags_cases hq with ⟨rfl, hon, hletters⟩ | ⟨hc, hletters⟩
  · dsimp only at h
    rw [if_pos rfl] at h
    cases h
    refine Or.inl ⟨rfl, hletters, ?_⟩
    have hpos : 0 < on.length := List.length_pos_iff.mpr hon
    simp only [List.length_append, Steady.flags hq]
    omega
  · dsimp only at h
    rw [if_neg hc] at h
    exact Or.inr ⟨Gives.gives (P := (· ≠ none)) h, hletters⟩

def Plain (ts : List Token) : Prop :=
  ∀ rest, ¬ FlagLetters ts rest ∧ ¬ CommentText ts rest

lemma not_opensWithFlags {us : List Token} (h : ∀ ts, us = .char '?' :: ts → Plain ts) :
    ¬ OpensWithFlags (.char '(' :: us) := by
  intro hopens
  obtain ⟨ts, hts, hflags⟩ := opensWithFlags_iff.mp hopens
  have hplain : Plain ts := h ts (List.cons.inj hts).2
  rcases hflags with ⟨rest, hletters⟩ | ⟨rest, hcomment, -⟩
  · exact (hplain rest).1 hletters
  · exact (hplain rest).2 hcomment

lemma plain_of_head {t : Token} {ts : List Token} (hflag : flagOf? t = none)
    (hcomment : t ≠ .char '#') : Plain (t :: ts) := fun rest =>
  ⟨fun h => by simpa [hflag] using h.head, fun h => hcomment h.head⟩

def Opening.Adds (opening : Opening) : Prop :=
  opening ≠ .flags ∧ opening ≠ .done none

def Opening.Tells (ts : List Token) (flags : List Flag) (opening : Opening) (s : Reader) : Prop :=
  opening = .flags ∧ FlagLetters ts s.tokens ∧ flags.length < s.flags.length ∨
    opening = .done none ∧ CommentText ts s.tokens ∨ opening.Adds ∧ Plain ts

lemma tells_of_adds {t : Token} {m : Reading Opening} (hm : Gives Opening.Adds m)
    (hflag : flagOf? t = none) (hcomment : t ≠ .char '#') :
    Ensures (fun q opening s => opening.Tells (t :: q.tokens) q.flags s) m := fun h =>
  Or.inr (Or.inr ⟨hm.gives h, plain_of_head hflag hcomment⟩)

lemma tells_pure {t : Token} {opening : Opening} (hflags : opening ≠ .flags)
    (hdone : opening ≠ .done none) (hflag : flagOf? t = none) (hcomment : t ≠ .char '#') :
    Ensures (fun q opening s => opening.Tells (t :: q.tokens) q.flags s) (pure opening) :=
  tells_of_adds (.pure ⟨hflags, hdone⟩) hflag hcomment

instance (name : Option Text) (pos : Nat) : Gives Opening.Adds (pure (.group name pos)) :=
  .pure ⟨by simp, by simp⟩

instance (n : Node) : Gives Opening.Adds (pure (.done (some n))) :=
  .pure ⟨by simp, by simp⟩

instance (behind negated : Bool) : Gives Opening.Adds (pure (.look behind negated)) :=
  .pure ⟨by simp, by simp⟩

lemma extension_tells {mode : Mode} {start : Nat} {r s : Reader} {opening : Opening}
    (h : extension mode start r = .ok (opening, s)) : opening.Tells r.tokens r.flags s := by
  unfold extension at h
  obtain ⟨t, q, hq, h⟩ := bind_ok h
  cases t with
  | none => cases h
  | some t =>
    rw [next_some hq, ← Steady.flags hq]
    refine Ensures.apply (fun q opening s => opening.Tells (t :: q.tokens) q.flags s) h ?_
    split
    · rename_i heq
      cases heq
    all_goals rename_i heq; obtain rfl := Option.some.inj heq
    · refine tells_of_adds (.bind _ fun b => .ite inferInstance (.bind _ fun b => ?_)) rfl (by decide)
      refine .ite inferInstance (.bind _ fun a => ?_)
      cases a <;> infer_instance
    · exact tells_pure (by simp) (by simp) rfl (by decide)
    · exact tells_pure (by simp) (by simp) rfl (by decide)
    · intro q opening s h
      rw [get_bind] at h
      obtain ⟨b, q', hskip, h⟩ := bind_ok h
      rcases skipUntil_eq_ok (by omega) hskip with ⟨rfl, cs, hcs, hq⟩ | ⟨rfl, -⟩
      · cases h
        exact Or.inr (Or.inl ⟨rfl, cs, hcs, by rw [hq]; rfl⟩)
      · cases h
    · exact tells_pure (by simp) (by simp) rfl (by decide)
    · exact tells_pure (by simp) (by simp) rfl (by decide)
    · refine tells_of_adds (.bind _ fun a => ?_) rfl (by decide)
      split <;> infer_instance
    · exact tells_pure (by simp) (by simp) rfl (by decide)
    · intro q opening s h
      by_cases hflag : (t = .char '-' || (flagOf? t).isSome) = true
      · rw [if_pos hflag] at h
        obtain ⟨p, q', hp, h⟩ := bind_ok h
        rcases inlineFlags_cases hp with ⟨rfl, hletters, hgrown⟩ | ⟨hp, hletters⟩
        · cases h
          exact Or.inl ⟨rfl, hletters, hgrown⟩
        · cases p with
          | none => exact absurd rfl hp
          | some p =>
            cases h
            refine Or.inr (Or.inr ⟨⟨by simp, by simp⟩, fun rest => ⟨hletters rest, fun hcomment => ?_⟩⟩)
            obtain rfl := hcomment.head
            exact absurd hflag (by decide)
      · rw [if_neg hflag] at h
        cases h

lemma tokens_of_advance {r s : Reader} {t : Token} (hhead : r.tokens.head? = some t)
    (h : advance r = .ok ((), s)) : r.tokens = t :: s.tokens :=
  next_some (hhead ▸ next_of_advance h)

lemma head_of_accept {x : Char} {r s : Reader} (h : accept x r = .ok (false, s)) :
    r.tokens.head? ≠ some (.char x) := by
  intro hhead
  unfold accept at h
  rw [peek_bind, if_pos hhead] at h
  obtain ⟨_, q, -, h⟩ := bind_ok h
  cases h

def AddsItem (new : Option (List Item)) : Prop :=
  ∃ i, new = some [i]

instance (i : Item) : Gives AddsItem (pure (some [i])) :=
  .pure ⟨i, rfl⟩

lemma group_cases {seq : Mode → Bool → Bool → Reading (List Node)} {mode : Mode} {verbose : Bool}
    {start : Nat} {r s : Reader} {new : Option (List Item)}
    (h : group seq mode verbose start r = .ok (new, s)) :
    new = none ∧ (∃ ts, r.tokens = .char '?' :: ts ∧ FlagLetters ts s.tokens) ∧
        r.flags.length < s.flags.length ∨
      new = some [] ∧ (∃ ts, r.tokens = .char '?' :: ts ∧ CommentText ts s.tokens) ∨
      AddsItem new ∧ ∀ ts, r.tokens = .char '?' :: ts → Plain ts := by
  unfold group at h
  obtain ⟨b, q, hq, h⟩ := bind_ok h
  cases b with
  | true =>
    obtain ⟨hhead, hadvance⟩ := accept_eq_true_iff.mp hq
    have htokens := tokens_of_advance hhead hadvance
    have hflags : q.flags = r.flags := Steady.flags hq
    rw [if_pos rfl] at h
    obtain ⟨opening, q', ho, h⟩ := bind_ok h
    rcases extension_tells ho with ⟨rfl, hletters, hgrown⟩ | ⟨rfl, hcomment⟩ | ⟨hadds, hplain⟩
    · cases h
      exact Or.inl ⟨rfl, ⟨_, htokens, hletters⟩, hflags ▸ hgrown⟩
    · cases h
      exact Or.inr (Or.inl ⟨rfl, _, htokens, hcomment⟩)
    · refine Or.inr (Or.inr ⟨?_, fun ts hts => ?_⟩)
      · refine Ensures.apply (fun _ new _ => AddsItem new) h ?_
        cases opening with
        | flags => exact absurd rfl hadds.1
        | done n =>
          cases n with
          | none => exact absurd rfl hadds.2
          | some n => exact Gives.gives
        | _ => exact Gives.gives
      · rw [htokens] at hts
        exact (List.cons.inj hts).2 ▸ hplain
  | false =>
    refine Or.inr (Or.inr ⟨?_, fun ts hts => absurd (by rw [hts]; rfl) (head_of_accept hq)⟩)
    dsimp only at h
    rw [if_neg (by simp)] at h
    obtain ⟨opening, q', ho, h⟩ := bind_ok h
    cases ho
    exact Gives.gives h

lemma flags_sequence {k : Nat} {mode : Mode} {r s : Reader} {ns : List Node}
    (hk : r.tokens.length < k) (h : sequence k [] mode false true r = .ok (ns, s)) :
    s.flags = r.flags ↔ ¬ OpensWithFlags r.tokens := by
  induction k generalizing r with
  | zero => omega
  | succ k ih =>
    by_cases hhead : r.tokens.head? = some (.char '(')
    · obtain ⟨q, new, q', hq, hnew, hrest⟩ := sequence_group_ok hhead h
      have htokens := tokens_of_advance hhead hq
      have hflags : q.flags = r.flags := Steady.flags hq
      have hkeeps : KeepsFlags (· = none) (group (sequence k []) mode false (q.pos - 1)) :=
        keepsFlags_group (steady_sequence k (Or.inl rfl)) _ _ _
      rw [htokens, ← hflags]
      rcases group_cases hnew with ⟨rfl, ⟨ts, hts, hletters⟩, hgrown⟩ | ⟨rfl, ts, hts, hcomment⟩ |
        ⟨⟨i, rfl⟩, hplain⟩
      · rcases hrest with ⟨-, -, -, hrest⟩ | ⟨more, hmore, -⟩
        · have hle := (Forward.onward hrest).flags.length_le
          have hopens : OpensWithFlags (.char '(' :: q.tokens) := hts ▸ .flags hletters
          refine ⟨fun hs => ?_, fun hs => absurd hopens hs⟩
          rw [hs] at hle
          omega
        · cases hmore
      · -- Behind a comment there are no items yet, and flags may still follow.
        rcases hrest with ⟨hmore, -⟩ | ⟨more, hmore, hrest⟩
        · cases hmore
        · cases hmore
          have hlen := (Forward.onward hnew).tokens.length_le
          rw [htokens, List.length_cons] at hk
          rw [hts, hcomment.opensWithFlags_iff, ← (hkeeps.flags hnew).resolve_left (by simp)]
          exact ih (by omega) hrest
      · rcases hrest with ⟨hmore, -⟩ | ⟨more, hmore, hrest⟩
        · cases hmore
        · cases hmore
          have hs : s.flags = q.flags :=
            ((steady_sequence k (Or.inr (by simp)) mode false).flags hrest).trans
              ((hkeeps.flags hnew).resolve_left (by simp))
          exact ⟨fun _ => not_opensWithFlags hplain, fun _ => hs⟩
    · have hflags : s.flags = r.flags := by
        refine flags_sequence_of_group (fun hv => ?_) (fun hitems => ?_) (absurd · hhead) h
        · cases hv
        · exact steady_sequence k (Or.inr hitems) mode false
      refine ⟨fun _ hopens => hhead ?_, fun _ => hflags⟩
      obtain ⟨us, hus, -⟩ := opensWithFlags_iff.mp hopens
      rw [hus]
      rfl

lemma flags_alternatives {k : Nat} {mode : Mode} {r s : Reader} {body : List Node}
    (hk : r.tokens.length < k)
    (h : alternatives (sequence k []) true mode false r = .ok (body, s)) :
    s.flags = r.flags ↔ ¬ OpensWithFlags r.tokens := by
  unfold alternatives at h
  rw [get_bind] at h
  unfold alternativesFrom at h
  obtain ⟨ns, q, hq, h⟩ := bind_ok h
  have hmore (mode : Mode) (verbose : Bool) : Steady
      (alternativesFrom (sequence k []) true r.tokens.length mode verbose ([] ++ [ns])) :=
    steady_alternativesFrom (steady_sequence k (Or.inl rfl)) _ mode verbose (Or.inr (by simp))
  have hrest : s.flags = q.flags := Steady.flags h
  rw [hrest]
  exact flags_sequence hk hq

end Reading

end LineShell.Pattern
