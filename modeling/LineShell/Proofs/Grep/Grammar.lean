import LineShell.Proofs.Grep.Options
import Mathlib.Data.Nat.Digits.Defs

namespace LineShell.Grep

inductive OptionItem where
  | letters (cs : Text) (h : Letters cs)
  | apart (value : Text) (h : Count value)
  | joined (value : Text) (h : Count value)

namespace OptionItem

def args : OptionItem → List Text
  | .letters cs _ => ['-' :: cs]
  | .apart value _ => [['-', 'A'], value]
  | .joined value _ => ['-' :: 'A' :: value]

def hasLetter (c : Char) : OptionItem → Bool
  | .letters cs _ => cs.contains c
  | .apart .. | .joined .. => false

def count? : OptionItem → Option Nat
  | .letters .. => none
  | .apart value _ | .joined value _ =>
    some (Nat.ofDigits 10 (value.reverse.map fun c => c.toNat - '0'.toNat))

end OptionItem

/-- The parts of the arguments of a search. Without a mark in front of it, the pattern must not look
like an option. -/
structure Split where
  items : List OptionItem
  marked : Bool
  pattern : Text
  paths : List Text
  unmarked : marked = false → pattern = ['-'] ∨ pattern.head? ≠ some '-'

namespace Split

def rest (s : Split) : List Text :=
  if s.marked then ['-', '-'] :: s.pattern :: s.paths else s.pattern :: s.paths

def args (s : Split) : List Text :=
  s.items.flatMap OptionItem.args ++ s.rest

def request (s : Split) : Request where
  options :=
    { ignoreCase := s.items.any (·.hasLetter 'i')
      word := s.items.any (·.hasLetter 'w')
      after := (s.items.filterMap OptionItem.count?).getLastD 0 }
  pattern := s.pattern
  paths := s.paths

end Split

lemma asciiValue_eq_ofDigits (value : Text) :
    Text.asciiValue value = Nat.ofDigits 10 (value.reverse.map fun c => c.toNat - '0'.toNat) := by
  rw [Text.asciiValue, Text.ofDigits, Nat.ofDigits_eq_foldr, List.map_reverse, List.foldr_reverse]
  congr 1
  funext n d
  exact Nat.add_comm ..

lemma letters_eq_ok {cs : Text} (h : ∀ c ∈ cs, c = 'i' ∨ c = 'w') (o : Options) :
    letters o cs = .ok { o with
      ignoreCase := o.ignoreCase || cs.contains 'i'
      word := o.word || cs.contains 'w' } := by
  induction cs generalizing o with
  | nil => simp [letters]
  | cons c cs ih =>
    obtain ⟨hc, hcs⟩ := List.forall_mem_cons.mp h
    rcases hc with rfl | rfl <;> simp [letters, ih hcs]

def OptionItem.apply (o : Options) (i : OptionItem) : Options where
  ignoreCase := o.ignoreCase || i.hasLetter 'i'
  word := o.word || i.hasLetter 'w'
  after := i.count?.getD o.after

lemma parseFrom_item (o : Options) (i : OptionItem) (rest : List Text) :
    parseFrom o (i.args ++ rest) = parseFrom (i.apply o) rest := by
  cases i with
  | letters cs h =>
    change parseFrom o (('-' :: cs) :: rest) = _
    rw [parseFrom_letters h, letters_eq_ok h.2]
    rfl
  | apart value h =>
    change parseFrom o (['-', 'A'] :: value :: rest) = _
    rw [parseFrom_apart, contextLength_of_count h, asciiValue_eq_ofDigits]
    simp [Except.bind, OptionItem.apply, OptionItem.hasLetter, OptionItem.count?]
  | joined value h =>
    change parseFrom o (('-' :: 'A' :: value) :: rest) = _
    rw [parseFrom_joined h.ne_nil, contextLength_of_count h, asciiValue_eq_ofDigits]
    simp [Except.bind, OptionItem.apply, OptionItem.hasLetter, OptionItem.count?]

lemma parseFrom_items (o : Options) (items : List OptionItem) (rest : List Text) :
    parseFrom o (items.flatMap OptionItem.args ++ rest) =
      parseFrom (items.foldl OptionItem.apply o) rest := by
  induction items generalizing o with
  | nil => rfl
  | cons i items ih => rw [List.flatMap_cons, List.append_assoc, parseFrom_item, ih, List.foldl_cons]

lemma foldl_apply (o : Options) (items : List OptionItem) :
    items.foldl OptionItem.apply o =
      { ignoreCase := o.ignoreCase || items.any (·.hasLetter 'i')
        word := o.word || items.any (·.hasLetter 'w')
        after := (items.filterMap OptionItem.count?).getLastD o.after } := by
  induction items generalizing o with
  | nil => simp
  | cons i items ih =>
    rw [List.foldl_cons, ih, List.any_cons, List.any_cons, ← Bool.or_assoc, ← Bool.or_assoc]
    cases hi : i.count? with
    | none =>
      rw [List.filterMap_cons_none hi]
      simp only [OptionItem.apply, hi, Option.getD_none]
    | some n =>
      rw [List.filterMap_cons_some hi, List.getLastD_cons]
      simp only [OptionItem.apply, hi, Option.getD_some]

lemma parseFrom_of_unmarked {pattern : Text}
    (h : pattern = ['-'] ∨ pattern.head? ≠ some '-') (o : Options) (paths : List Text) :
    parseFrom o (pattern :: paths) = .ok ⟨o, pattern, paths⟩ := by
  unfold parseFrom
  split <;> simp_all [operands]

lemma parseFrom_rest (o : Options) (s : Split) :
    parseFrom o s.rest = .ok ⟨o, s.pattern, s.paths⟩ := by
  unfold Split.rest
  split
  · rfl
  · rename_i hmark
    exact parseFrom_of_unmarked (s.unmarked (by simpa using hmark)) o s.paths

lemma parse_args (s : Split) : parse s.args = .ok s.request := by
  rw [parse, Split.args, parseFrom_items, parseFrom_rest, foldl_apply]
  rfl

namespace Split

def cons (i : OptionItem) (s : Split) : Split :=
  { s with items := i :: s.items }

lemma args_cons (i : OptionItem) (s : Split) : (s.cons i).args = i.args ++ s.args := by
  change (i :: s.items).flatMap OptionItem.args ++ s.rest = _
  rw [List.flatMap_cons, List.append_assoc]
  rfl

end Split

lemma exists_split_of_parseFrom (o : Options) (args : List Text) {r : Request}
    (h : parseFrom o args = .ok r) : ∃ s : Split, s.args = args := by
  fun_induction parseFrom o args with
  | case1 o => cases h
  | case2 o rest =>
    cases rest with
    | nil => cases h
    | cons pattern paths => exact ⟨⟨[], true, pattern, paths, by simp⟩, rfl⟩
  | case3 o => simp [contextLength, Text.isAsciiNumeral, Except.bind] at h
  | case4 o value rest ih =>
    obtain ⟨n, hn, hrest⟩ := bind_eq_ok_iff.mp h
    obtain ⟨s, rfl⟩ := ih n hrest
    exact ⟨s.cons (.apart value (count_of_contextLength hn)), s.args_cons _⟩
  | case5 o value rest _ _ ih =>
    obtain ⟨n, hn, hrest⟩ := bind_eq_ok_iff.mp h
    obtain ⟨s, rfl⟩ := ih n hrest
    exact ⟨s.cons (.joined value (count_of_contextLength hn)), s.args_cons _⟩
  | case6 o c cs rest _ _ _ _ ih =>
    obtain ⟨o', ho, hrest⟩ := bind_eq_ok_iff.mp h
    obtain ⟨s, rfl⟩ := ih o' hrest
    exact ⟨s.cons (.letters (c :: cs) ⟨by simp, forall_of_letters ho⟩), s.args_cons _⟩
  | case7 o operand rest _ _ _ _ hdash =>
    refine ⟨⟨[], false, operand, rest, fun _ => ?_⟩, rfl⟩
    rw [or_iff_not_imp_left]
    intro hne hhead
    obtain ⟨cs, rfl⟩ := List.head?_eq_some_iff.mp hhead
    have hcs : cs ≠ [] := fun hcs => hne (congrArg _ hcs)
    obtain ⟨c, cs, rfl⟩ := List.exists_cons_of_ne_nil hcs
    exact hdash c cs rfl

lemma Letters.ne_cons {cs : Text} (h : Letters cs) (value : Text) : cs ≠ 'A' :: value := by
  rintro rfl
  simpa using h.2 'A' List.mem_cons_self

namespace OptionItem

lemma exists_args_eq (i : OptionItem) : ∃ c cs more, i.args = ('-' :: c :: cs) :: more ∧ c ≠ '-' := by
  cases i with
  | letters cs h =>
    obtain ⟨c, cs, rfl⟩ := List.exists_cons_of_ne_nil h.1
    refine ⟨c, cs, [], rfl, ?_⟩
    rcases h.2 c List.mem_cons_self with rfl | rfl <;> decide
  | apart value h => exact ⟨'A', [], [value], rfl, by decide⟩
  | joined value h => exact ⟨'A', value, [], rfl, by decide⟩

lemma args_append_inj {i j : OptionItem} {xs ys : List Text} (h : i.args ++ xs = j.args ++ ys) :
    i = j ∧ xs = ys := by
  cases i with
  | letters cs hcs =>
    cases j with
    | letters ds hds => simpa [args] using h
    | apart value hv => exact (hcs.ne_cons [] (by simp_all [args])).elim
    | joined value hv => exact (hcs.ne_cons value (by simp_all [args])).elim
  | apart value hv =>
    cases j with
    | letters ds hds => exact (hds.ne_cons [] (by simp_all [args])).elim
    | apart value' hv' => simpa [args] using h
    | joined value' hv' => exact (hv'.ne_nil (by simp_all [args])).elim
  | joined value hv =>
    cases j with
    | letters ds hds => exact (hds.ne_cons value (by simp_all [args])).elim
    | apart value' hv' => exact (hv.ne_nil (by simp_all [args])).elim
    | joined value' hv' => simpa [args] using h

end OptionItem

namespace Split

lemma rest_ne_item (s : Split) (i : OptionItem) (xs : List Text) : s.rest ≠ i.args ++ xs := by
  obtain ⟨c, cs, more, hargs, hc⟩ := i.exists_args_eq
  rw [hargs]
  intro h
  unfold rest at h
  split at h
  · obtain ⟨hmark, -⟩ := List.cons.inj h
    simp only [List.cons.injEq, true_and] at hmark
    exact hc hmark.1.symm
  · rename_i hmark
    obtain ⟨hpattern, -⟩ := List.cons.inj h
    have hplain := s.unmarked (by simpa using hmark)
    simp [hpattern] at hplain

lemma rest_inj {s t : Split} (h : s.rest = t.rest) :
    s.marked = t.marked ∧ s.pattern = t.pattern ∧ s.paths = t.paths := by
  have hplain : ∀ u : Split, u.marked = false → u.pattern ≠ ['-', '-'] := by
    intro u hu hpattern
    have hunmarked := u.unmarked hu
    simp [hpattern] at hunmarked
  unfold rest at h
  cases hs : s.marked <;> cases ht : t.marked <;> simp [hs, ht] at h
  · exact ⟨rfl, h⟩
  · exact (hplain s hs h.1).elim
  · exact (hplain t ht h.1.symm).elim
  · exact ⟨rfl, h⟩

-- By induction on the options of one of the two: the first argument tells which option it starts,
-- or that there is none.
lemma items_inj (s t : Split) {items items' : List OptionItem}
    (h : items.flatMap OptionItem.args ++ s.rest = items'.flatMap OptionItem.args ++ t.rest) :
    items = items' ∧ s.rest = t.rest := by
  induction items generalizing items' with
  | nil =>
    cases items' with
    | nil => exact ⟨rfl, h⟩
    | cons j items' =>
      rw [List.flatMap_cons, List.append_assoc] at h
      exact (s.rest_ne_item j _ h).elim
  | cons i items ih =>
    cases items' with
    | nil =>
      rw [List.flatMap_cons, List.append_assoc] at h
      exact (t.rest_ne_item i _ h.symm).elim
    | cons j items' =>
      rw [List.flatMap_cons, List.flatMap_cons, List.append_assoc, List.append_assoc] at h
      obtain ⟨rfl, hrest⟩ := OptionItem.args_append_inj h
      obtain ⟨rfl, hsame⟩ := ih hrest
      exact ⟨rfl, hsame⟩

lemma args_injective : Function.Injective args := by
  intro s t h
  obtain ⟨hitems, hrest⟩ := items_inj s t h
  obtain ⟨hmarked, hpattern, hpaths⟩ := rest_inj hrest
  cases s
  cases t
  simp_all

end Split

theorem parse_option_grammar (args : List Text) :
    ((∃ r, parse args = .ok r) ↔ ∃ s : Split, s.args = args) ∧
    (∀ s t : Split, s.args = args → t.args = args → s = t) ∧
    (∀ s : Split, s.args = args → parse args = .ok s.request) := by
  refine ⟨⟨?_, ?_⟩, ?_, ?_⟩
  · rintro ⟨r, hr⟩
    exact exists_split_of_parseFrom {} args hr
  · rintro ⟨s, rfl⟩
    exact ⟨s.request, parse_args s⟩
  · rintro s t rfl hst
    exact Split.args_injective hst.symm
  · rintro s rfl
    exact parse_args s

end LineShell.Grep
