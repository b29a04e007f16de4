import LineShell.Grep.Selection
import Mathlib.Data.Nat.Basic
import Mathlib.Tactic.Lemma

/-! What a search selects, told by the places of the lines: those in reach of a match, and a gap
wherever lines are left out between two of them. -/

namespace LineShell.Grep

inductive Row where
  | line (text : Text) (place : Nat)
  | gap
  deriving DecidableEq, Repr

namespace Row

def text : Row → Text
  | .line l _ => l
  | .gap => separator

def line? : Row → Option (Text × Nat)
  | .line l i => some (l, i)
  | .gap => none

end Row

variable (hit : Text → Bool) (after : Nat)

def InReach (lines : List Text) (i : Nat) : Prop :=
  ∃ j ≤ i, i ≤ j + after ∧ lines[j]?.any hit = true

instance (lines : List Text) (i : Nat) : Decidable (InReach hit after lines i) :=
  inferInstanceAs (Decidable (∃ j ≤ i, i ≤ j + after ∧ lines[j]?.any hit = true))

def selected (lines : List Text) : List (Text × Nat) :=
  lines.zipIdx.filter fun x => InReach hit after lines x.2

def gapBefore (last : Option Nat) (i : Nat) : List Row :=
  if 0 < after && last.any (· + 1 < i) then [.gap] else []

def spaced : Option Nat → List (Text × Nat) → List Row
  | _, [] => []
  | last, (l, i) :: rest => gapBefore after last i ++ .line l i :: spaced (some i) rest

def excerpt (lines : List Text) : List Row :=
  spaced after none (selected hit after lines)

def Trails (pre : List Text) (d : Nat) : Prop :=
  ∃ j < pre.length, pre.length + d ≤ j + after ∧ pre[j]?.any hit = true

/-- How a selection stands when the lines `pre` are done: the lines that are still owed are those
in reach of a match in `pre`, and the last line selected was at `last`. -/
structure Behind (pre : List Text) (owed : Nat) (written gap : Bool) (last : Option Nat) :
    Prop where
  owed_iff : ∀ d, d < owed ↔ Trails hit after pre d
  written_eq : written = last.isSome
  last_lt : ∀ i ∈ last, i < pre.length
  gap_eq : ∀ i ∈ last, gap = decide (i + 1 < pre.length)
  recent : 0 < owed → ∃ i ∈ last, i + 1 = pre.length

variable {hit after} {pre rest : List Text} {l : Text}

lemma any_hit_iff {j : Nat} (hj : j ≤ pre.length) :
    (pre ++ l :: rest)[j]?.any hit = true ↔
      j < pre.length ∧ pre[j]?.any hit = true ∨ j = pre.length ∧ hit l = true := by
  rcases Nat.lt_or_eq_of_le hj with hlt | rfl
  · rw [List.getElem?_append_left hlt]
    simp [hlt, Nat.ne_of_lt hlt]
  · rw [List.getElem?_append_right (Nat.le_refl _), Nat.sub_self]
    simp

lemma trails_append_singleton {d : Nat} :
    Trails hit after (pre ++ [l]) d ↔ Trails hit after pre (d + 1) ∨ d < after ∧ hit l = true := by
  have hlength : (pre ++ [l]).length = pre.length + 1 := List.length_append
  constructor
  · rintro ⟨j, hj, hreach, hhit⟩
    rcases (any_hit_iff (by omega)).mp hhit with ⟨hpre, hmatch⟩ | ⟨rfl, hmatch⟩
    · exact Or.inl ⟨j, hpre, by omega, hmatch⟩
    · exact Or.inr ⟨by omega, hmatch⟩
  · rintro (⟨j, hj, hreach, hmatch⟩ | ⟨hd, hmatch⟩)
    · exact ⟨j, by omega, by omega, (any_hit_iff (by omega)).mpr (Or.inl ⟨hj, hmatch⟩)⟩
    · exact ⟨pre.length, by omega, by omega, (any_hit_iff (by omega)).mpr (Or.inr ⟨rfl, hmatch⟩)⟩

lemma inReach_length_iff :
    InReach hit after (pre ++ l :: rest) pre.length ↔ Trails hit after pre 0 ∨ hit l = true := by
  constructor
  · rintro ⟨j, hj, hreach, hhit⟩
    rcases (any_hit_iff hj).mp hhit with ⟨hpre, hmatch⟩ | ⟨-, hmatch⟩
    · exact Or.inl ⟨j, hpre, hreach, hmatch⟩
    · exact Or.inr hmatch
  · rintro (⟨j, hj, hreach, hmatch⟩ | hmatch)
    · exact ⟨j, by omega, hreach, (any_hit_iff (by omega)).mpr (Or.inl ⟨hj, hmatch⟩)⟩
    · exact ⟨pre.length, by omega, by omega, (any_hit_iff (by omega)).mpr (Or.inr ⟨rfl, hmatch⟩)⟩

section

variable {owed : Nat} {written gap : Bool} {last : Option Nat}

lemma behind_nil : Behind hit after [] 0 false false none where
  owed_iff d := by simp [Trails]
  written_eq := rfl
  last_lt := by simp
  gap_eq := by simp
  recent h := absurd h (Nat.lt_irrefl 0)

lemma behind_selected {n : Nat} (h : ∀ d, d < n ↔ Trails hit after (pre ++ [l]) d) :
    Behind hit after (pre ++ [l]) n true false (some pre.length) where
  owed_iff := h
  written_eq := rfl
  last_lt := by simp
  gap_eq := by simp
  recent _ := ⟨pre.length, rfl, by simp⟩

-- A match reaches farther than all matches before it, so what they left owed does not count.
lemma behind_match (pre : List Text) (hl : hit l = true) :
    Behind hit after (pre ++ [l]) after true false (some pre.length) := by
  refine behind_selected fun d => ?_
  rw [trails_append_singleton]
  constructor
  · exact fun hd => Or.inr ⟨hd, hl⟩
  · rintro (⟨j, hj, hreach, -⟩ | ⟨hd, -⟩)
    · omega
    · exact hd

lemma Behind.context {n : Nat} (h : Behind hit after pre (n + 1) written gap last)
    (hl : hit l = false) : Behind hit after (pre ++ [l]) n true false (some pre.length) := by
  refine behind_selected fun d => ?_
  rw [trails_append_singleton, ← h.owed_iff, hl]
  simp

lemma Behind.skip (h : Behind hit after pre 0 written gap last) (hl : hit l = false) :
    Behind hit after (pre ++ [l]) 0 written true last where
  owed_iff d := by
    rw [trails_append_singleton, ← h.owed_iff, hl]
    simp
  written_eq := h.written_eq
  last_lt i hi := by
    have := h.last_lt i hi
    rw [List.length_append]
    omega
  gap_eq i hi := by simpa using h.last_lt i hi
  recent hpos := absurd hpos (Nat.lt_irrefl 0)

lemma Behind.inReach_iff (h : Behind hit after pre owed written gap last) (l : Text)
    (rest : List Text) :
    InReach hit after (pre ++ l :: rest) pre.length ↔ 0 < owed ∨ hit l = true := by
  rw [inReach_length_iff, h.owed_iff]

lemma Behind.separates (h : Behind hit after pre owed written gap last) :
    (written && gap) = last.any (· + 1 < pre.length) := by
  rw [h.written_eq]
  cases last with
  | none => rfl
  | some i => simp [h.gap_eq i rfl]

-- By induction on the lines that are left, with `Behind` for the lines that are done.
lemma selectFrom_eq_spaced (h : Behind hit after pre owed written gap last) :
    selectFrom hit after owed written gap rest =
      (spaced after last ((rest.zipIdx pre.length).filter
        fun x => InReach hit after (pre ++ rest) x.2)).map Row.text := by
  induction rest generalizing pre owed written gap last with
  | nil => rfl
  | cons l rest ih =>
    have happend : pre ++ l :: rest = (pre ++ [l]) ++ rest := List.append_cons ..
    have hlength : pre.length + 1 = (pre ++ [l]).length := by simp
    have hreach := h.inReach_iff l rest
    rw [List.zipIdx_cons, List.filter_cons]
    cases hl : hit l with
    | true =>
      rw [if_pos (decide_eq_true (hreach.mpr (Or.inr hl))), hlength, happend]
      simp only [selectFrom, spaced, gapBefore, hl, if_true, Bool.and_assoc, h.separates,
        ih (behind_match pre hl)]
      split <;> rfl
    | false =>
      cases owed with
      | zero =>
        have hout : ¬ InReach hit after (pre ++ l :: rest) pre.length := by simp [hreach, hl]
        rw [if_neg (by simpa using hout), hlength, happend]
        simp only [selectFrom, hl, Bool.false_eq_true, if_false, ih (h.skip hl)]
      | succ n =>
        obtain ⟨i, hi, hnext⟩ := h.recent (Nat.succ_pos n)
        obtain rfl : last = some i := hi
        have hnear : gapBefore after (some i) pre.length = [] := by simp [gapBefore, hnext]
        rw [if_pos (decide_eq_true (hreach.mpr (Or.inl (Nat.succ_pos n)))), hlength, happend]
        simp only [selectFrom, spaced, hl, hnear, Bool.false_eq_true, if_false, List.nil_append,
          List.map_cons, Row.text, ih (h.context hl)]

end

lemma select_eq_map_text (hit : Text → Bool) (after : Nat) (lines : List Text) :
    select hit after lines = (excerpt hit after lines).map Row.text :=
  selectFrom_eq_spaced behind_nil

section

variable (after : Nat) (last : Option Nat) (us vs : List (Text × Nat)) (x : Text × Nat)

lemma filterMap_gapBefore (i : Nat) : (gapBefore after last i).filterMap Row.line? = [] := by
  unfold gapBefore
  split <;> rfl

lemma filterMap_spaced : (spaced after last us).filterMap Row.line? = us := by
  induction us generalizing last with
  | nil => rfl
  | cons u us ih => simp [spaced, filterMap_gapBefore, Row.line?, ih]

lemma spaced_append_cons :
    ∃ front, spaced after last (us ++ x :: vs) =
      front ++ .line x.1 x.2 :: spaced after (some x.2) vs ∧ front.filterMap Row.line? = us := by
  induction us generalizing last with
  | nil => exact ⟨gapBefore after last x.2, rfl, filterMap_gapBefore after last x.2⟩
  | cons u us ih =>
    obtain ⟨front, hfront, hlines⟩ := ih (some u.2)
    refine ⟨gapBefore after last u.2 ++ .line u.1 u.2 :: front, ?_, ?_⟩
    · simp [spaced, hfront]
    · simp [filterMap_gapBefore, Row.line?, hlines]

lemma getLast?_spaced : (spaced after last us).getLast? ≠ some .gap := by
  rcases List.eq_nil_or_concat us with rfl | ⟨us, x, rfl⟩
  · simp [spaced]
  · obtain ⟨front, hfront, -⟩ := spaced_append_cons after last us [] x
    rw [List.concat_eq_append, hfront, spaced, List.getLast?_concat]
    simp

end

theorem select_eq_excerpt (hit : Text → Bool) (after : Nat) (lines : List Text) :
    let found := excerpt hit after lines
    select hit after lines = found.map Row.text ∧
    found.filterMap Row.line? = selected hit after lines ∧
    found.head? ≠ some .gap ∧ found.getLast? ≠ some .gap ∧
    ∀ us l i m j vs, selected hit after lines = us ++ (l, i) :: (m, j) :: vs →
      ∃ front back, found = front ++ .line l i ::
          ((if 0 < after ∧ i + 1 < j then [.gap] else []) ++ .line m j :: back) ∧
        front.filterMap Row.line? = us ∧ back.filterMap Row.line? = vs := by
  refine ⟨select_eq_map_text hit after lines, filterMap_spaced after none _, ?_,
    getLast?_spaced after none _, ?_⟩
  · simp only [excerpt]
    cases selected hit after lines with
    | nil => simp [spaced]
    | cons x xs => simp [spaced, gapBefore]
  · intro us l i m j vs hselected
    obtain ⟨front, hfront, hus⟩ := spaced_append_cons after none us ((m, j) :: vs) (l, i)
    refine ⟨front, spaced after (some j) vs, ?_, hus, filterMap_spaced after (some j) vs⟩
    simp only [excerpt, hselected, hfront]
    simp [spaced, gapBefore]

end LineShell.Grep
