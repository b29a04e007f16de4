import LineShell.Pattern.Search
import Mathlib.Data.Option.Basic

namespace LineShell.Pattern

def Next.Within (k k' : Next) : Prop :=
  ∀ p, (k p).isSome = true → (k' p).isSome = true

lemma isSome_or_of_imp {x x' y y' : Option Point} (hx : x.isSome = true → x'.isSome = true)
    (hy : y.isSome = true → y'.isSome = true) (h : (x.or y).isSome = true) :
    (x'.or y').isSome = true := by
  rw [Option.isSome_or, Bool.or_eq_true] at h ⊢
  exact h.imp hx hy

lemma repeatGreedy_succ (body : Next → Next) (least : Nat) (most : Option Nat) (k : Next)
    (fuel count : Nat) (last : Option Nat) (p : Point) :
    repeatGreedy body least most k (fuel + 1) count last p =
      if count < least then body (repeatGreedy body least most k fuel (count + 1) last) p
      else if most.all (count < ·) && last != some p.pos then
        (body (repeatGreedy body least most k fuel (count + 1) (some p.pos)) p).or (k p)
      else k p := by
  rw [repeatGreedy]
  cases body (repeatGreedy body least most k fuel (count + 1) (some p.pos)) p <;> rfl

lemma repeatLazy_succ (body : Next → Next) (least : Nat) (most : Option Nat) (k : Next)
    (fuel count : Nat) (last : Option Nat) (p : Point) :
    repeatLazy body least most k (fuel + 1) count last p =
      if count < least then body (repeatLazy body least most k fuel (count + 1) last) p
      else (k p).or
        (if most.all (count < ·) && last != some p.pos then
          body (repeatLazy body least most k fuel (count + 1) (some p.pos)) p
        else none) := by
  rw [repeatLazy]
  cases k p <;> rfl

section

variable {body : Next → Next} (hbody : ∀ {k k' : Next}, k.Within k' → (body k).Within (body k'))
  (least : Nat) (most : Option Nat) {k k' : Next} (hk : k.Within k')

include hbody hk

lemma repeatGreedy_within (fuel count : Nat) (last : Option Nat) :
    Next.Within (repeatGreedy body least most k fuel count last)
      (repeatGreedy body least most k' fuel count last) := by
  induction fuel generalizing count last with
  | zero => exact hk
  | succ fuel ih =>
    intro p
    rw [repeatGreedy_succ, repeatGreedy_succ]
    split
    · exact hbody (ih _ _) p
    · split
      · exact isSome_or_of_imp (hbody (ih _ _) p) (hk p)
      · exact hk p

lemma repeatLazy_within (fuel count : Nat) (last : Option Nat) :
    Next.Within (repeatLazy body least most k fuel count last)
      (repeatLazy body least most k' fuel count last) := by
  induction fuel generalizing count last with
  | zero => exact hk
  | succ fuel ih =>
    intro p
    rw [repeatLazy_succ, repeatLazy_succ]
    split
    · exact hbody (ih _ _) p
    · refine isSome_or_of_imp (hk p) ?_
      split
      · exact hbody (ih _ _) p
      · exact id

omit hbody

lemma repeatPossessive_within (fuel count : Nat) (last : Option Nat) :
    Next.Within (repeatPossessive body least most k fuel count last)
      (repeatPossessive body least most k' fuel count last) := by
  induction fuel generalizing count last with
  | zero => exact hk
  | succ fuel ih =>
    intro p
    unfold repeatPossessive
    -- The body is run with `some`, whatever `k` is, so that both repetitions go the same way.
    cases body some p with
    | none =>
      dsimp only
      split
      · exact id
      · split
        · exact hk p
        · exact hk p
    | some q =>
      dsimp only
      split
      · exact ih _ _ q
      · split
        · exact ih _ _ q
        · exact hk p

end

lemma CharTest.passes_set_of_not_ignoreCase {m : Mode} (hm : m.ignoreCase = false) (negated : Bool)
    (members : List Member) (code : Nat) :
    (set negated members).passes m code = (set negated members).passes { ascii := m.ascii } code := by
  simp [passes, hm]

namespace Node

variable (text : Array Char)

lemma run_ofList_cons (n : Node) (ns : List Node) (k : Next) :
    (ofList (n :: ns)).run text k = n.run text ((ofList ns).run text k) := by
  cases ns with
  | nil => rfl
  | cons m ns => rfl

lemma run_ofList_append (ms ns : List Node) (k : Next) :
    (ofList (ms ++ ns)).run text k = (ofList ms).run text ((ofList ns).run text k) := by
  induction ms with
  | nil => rfl
  | cons m ms ih => rw [List.cons_append, run_ofList_cons, run_ofList_cons, ih]

lemma run_alt (a b : Node) (k : Next) (p : Point) :
    (alt a b).run text k p = (a.run text k p).or (b.run text k p) := by
  rw [run]
  cases a.run text k p <;> rfl

lemma run_within (n : Node) {k k' : Next} (hk : k.Within k') :
    (n.run text k).Within (n.run text k') := by
  induction n generalizing k k' with
  | empty => exact hk
  | char m t =>
    intro p
    unfold run
    cases text[p.pos]? with
    | none => exact id
    | some c =>
      dsimp only
      split
      · exact hk _
      · exact id
  | anchor m a =>
    intro p
    unfold run
    split
    · exact hk p
    · exact id
  | backref m g w =>
    intro p
    unfold run
    cases p.group? g with
    | none => exact id
    | some span =>
      dsimp only
      split
      · exact hk _
      · exact id
  | seq a b iha ihb => exact iha (ihb hk)
  | alt a b iha ihb =>
    intro p
    rw [run_alt, run_alt]
    exact isSome_or_of_imp (iha hk p) (ihb hk p)
  | capture g b ih => exact fun p => ih (fun q => hk _) _
  | «scoped» b ih => exact ih hk
  | atomic b ih =>
    intro p
    unfold run
    cases b.run text some p with
    | none => exact id
    | some q => exact hk q
  | look behind negated b ih =>
    intro p
    unfold run
    dsimp only
    generalize (if (if behind = true then b.width.least else 0) ≤ p.pos then _ else _) = found
    cases found <;> cases negated
    · exact id
    · exact hk p
    · exact hk _
    · exact id
  | choose g yes no ihyes ihno =>
    intro p
    unfold run
    split
    · exact ihyes hk p
    · exact ihno hk p
  | rep greed least most b ih =>
    intro p
    cases greed with
    | greedy => exact repeatGreedy_within ih least most hk _ _ _ p
    | «lazy» => exact repeatLazy_within ih least most hk _ _ _ p
    | possessive => exact repeatPossessive_within least most hk _ _ _ p

def leadMode? : Node → Option Mode
  | .char m (.set _ _) => some m
  | .seq a _ => a.leadMode?
  | .capture _ b | .scoped b => b.leadMode?
  | _ => none

lemma set_of_lead? {n : Node} {test : CharTest} (h : n.lead? = some test) :
    ∃ negated members, test = .set negated members := by
  induction n with
  | char m t =>
    cases t with
    | set negated members =>
      unfold lead? at h
      split at h
      · cases h
      · exact ⟨negated, members, (Option.some.inj h).symm⟩
    | _ => cases h
  | seq a b iha ihb => exact iha h
  | capture g b ih => exact ih h
  | «scoped» b ih => exact ih h
  | _ => cases h

lemma passes_of_lead? {n : Node} {test : CharTest} (hlead : n.lead? = some test) {k : Next}
    {p : Point} (h : (n.run text k p).isSome = true) :
    ∃ m c, n.leadMode? = some m ∧ text[p.pos]? = some c ∧ test.passes m c.toNat = true := by
  induction n generalizing k p with
  | char m t =>
    cases t with
    | set negated members =>
      unfold lead? at hlead
      split at hlead
      · cases hlead
      · obtain rfl := Option.some.inj hlead
        unfold run at h
        cases hc : text[p.pos]? with
        | none => simp [hc] at h
        | some c =>
          rw [hc] at h
          dsimp only at h
          split at h
          · rename_i hpasses
            exact ⟨m, c, rfl, rfl, hpasses⟩
          · cases h
    | _ => cases hlead
  | seq a b iha ihb => exact iha hlead h
  | capture g b ih => exact ih (p := p.mark (2 * g)) hlead h
  | «scoped» b ih => exact ih hlead h
  | _ => cases hlead

lemma flaw?_ofList_eq_none_iff {template : Bool} {ns : List Node} :
    (ofList ns).flaw? template = none ↔ ∀ n ∈ ns, n.flaw? template = none := by
  fun_induction ofList ns with
  | case1 => simp [flaw?]
  | case2 n => simp
  | case3 n ns hns ih => simp [flaw?, ih]

lemma overreaches_ofList (ns : List Node) : (ofList ns).overreaches = ns.any overreaches := by
  fun_induction ofList ns with
  | case1 => rfl
  | case2 n => simp
  | case3 n ns hns ih => simp [overreaches, ih]

end Node

end LineShell.Pattern
