import LineShell.Proofs.Command.Parse
import LineShell.Proofs.Lexeme.Seam
import Mathlib.Data.List.Chain

namespace LineShell

namespace Lexeme

inductive Melts : List Lexeme → List Lexeme → Prop
  | nil : Melts [] []
  | other {l : Lexeme} {ls ms : List Lexeme} : l.isWord = false → Melts ls ms →
      Melts (l :: ls) (l :: ms)
  | run {ws ls ms : List Lexeme} : ws ≠ [] → (∀ l ∈ ws, l.isWord) →
      ls.head?.any isWord = false → Melts ls ms →
      Melts (ws ++ ls) (⟨.plain, ws.flatMap value⟩ :: ms)

def IsToken (l : Lexeme) : Prop :=
  l.kind = .plain ∨ l.kind = .space ∨ l.kind = .pipe ∨ l.kind = .separator

def Apart (k : Kind) (ls : List Lexeme) : Prop :=
  ls.IsChain fun l m => ¬ (l.kind = k ∧ m.kind = k)

lemma ne_plain_of_not_isWord {l : Lexeme} (h : l.isWord = false) : l.kind ≠ .plain := by
  intro hk
  simp [isWord, hk] at h

lemma isToken_of_not_isWord {l : Lexeme} (h : l.isWord = false) : l.IsToken := by
  obtain ⟨kind, text⟩ := l
  cases kind <;> simp_all [isWord, IsToken]

lemma melts_word {l : Lexeme} (hl : l.isWord) {ls ms : List Lexeme} (h : Melts ls ms) :
    Melts (l :: ls) (absorb l ms) := by
  have hone : ∀ k ∈ [l], k.isWord := List.forall_mem_singleton.mpr hl
  cases h with
  | nil =>
    have hrun := Melts.run (List.cons_ne_nil l []) hone rfl .nil
    simpa [absorb, hl] using hrun
  | @other m ls ms hm h =>
    have hrun := Melts.run (List.cons_ne_nil l []) hone (by simpa using hm) (.other hm h)
    rw [absorb_of_ne_plain hl (ne_plain_of_not_isWord hm)]
    simpa using hrun
  | @run ws ls ms _ hws hls h =>
    have hrun := Melts.run (List.cons_ne_nil l ws) (List.forall_mem_cons.mpr ⟨hl, hws⟩) hls h
    rw [absorb_plain hl rfl]
    simpa using hrun

lemma melts_fuse (ls : List Lexeme) : Melts ls (fuse ls) := by
  induction ls with
  | nil => exact .nil
  | cons l ls ih =>
    change Melts (l :: ls) (absorb l (fuse ls))
    cases hl : l.isWord with
    | true => exact melts_word hl ih
    | false =>
      rw [absorb_of_not_isWord hl]
      exact .other hl ih

section

variable {ls ms : List Lexeme}

lemma fuse_run {ws : List Lexeme} (hne : ws ≠ []) (hws : ∀ l ∈ ws, l.isWord)
    (hls : ls.head?.any isWord = false) :
    fuse (ws ++ ls) = ⟨.plain, ws.flatMap value⟩ :: fuse ls := by
  induction ws with
  | nil => exact absurd rfl hne
  | cons w ws ih =>
    obtain ⟨hw, hws⟩ := List.forall_mem_cons.mp hws
    change absorb w (fuse (ws ++ ls)) = _
    cases ws with
    | nil =>
      cases ls with
      | nil => simp [fuse, absorb, hw]
      | cons m ls =>
        have hm : m.isWord = false := by simpa using hls
        change absorb w (absorb m (fuse ls)) = _ :: absorb m (fuse ls)
        rw [absorb_of_not_isWord hm, absorb_of_ne_plain hw (ne_plain_of_not_isWord hm)]
        simp
    | cons v vs =>
      rw [ih (List.cons_ne_nil v vs) hws, absorb_plain hw rfl]
      rfl

lemma Melts.fuse_eq (h : Melts ls ms) : fuse ls = ms := by
  induction h with
  | nil => rfl
  | @other l ls ms hl _ ih =>
    change absorb l (fuse ls) = _
    rw [absorb_of_not_isWord hl, ih]
  | run hne hws hls _ ih => rw [fuse_run hne hws hls, ih]

lemma fuse_eq_iff_melts : fuse ls = ms ↔ Melts ls ms :=
  ⟨fun h => h ▸ melts_fuse ls, Melts.fuse_eq⟩

lemma Melts.head_not_isWord (h : Melts ls ms) (hls : ls.head?.any isWord = false) :
    ms.head?.any isWord = false := by
  cases h with
  | nil => rfl
  | other hl => simpa using hl
  | @run ws ls ms hne hws =>
    obtain ⟨w, ws, rfl⟩ := List.exists_cons_of_ne_nil hne
    simp [hws w (by simp)] at hls

lemma Melts.isToken (h : Melts ls ms) : ∀ l ∈ ms, l.IsToken := by
  induction h with
  | nil => simp
  | other hl _ ih => exact List.forall_mem_cons.mpr ⟨isToken_of_not_isWord hl, ih⟩
  | run _ _ _ _ ih => exact List.forall_mem_cons.mpr ⟨Or.inl rfl, ih⟩

lemma Melts.apart_plain (h : Melts ls ms) : Apart .plain ms := by
  induction h with
  | nil => exact List.isChain_nil
  | other hl _ ih =>
    refine List.isChain_cons.mpr ⟨fun m _ hboth => ?_, ih⟩
    exact ne_plain_of_not_isWord hl hboth.1
  | run _ _ hls hms ih =>
    refine List.isChain_cons.mpr ⟨fun m hm hboth => ?_, ih⟩
    have hword := hms.head_not_isWord hls
    rw [hm, Option.any_some] at hword
    exact ne_plain_of_not_isWord hword hboth.2

lemma Melts.self (h : Melts ls ms) : Melts ms ms := by
  induction h with
  | nil => exact .nil
  | other hl _ ih => exact .other hl ih
  | @run ws ls ms _ _ hls hms ih =>
    have hword : ∀ l ∈ [mk .plain (ws.flatMap value)], l.isWord := List.forall_mem_singleton.mpr rfl
    have hrun := Melts.run (List.cons_ne_nil _ _) hword (hms.head_not_isWord hls) ih
    simpa [value] using hrun

lemma Melts.mem_head? {m : Lexeme} (h : Melts ls ms) (hm : m ∈ ms.head?) (hk : m.isWord = false) :
    m ∈ ls.head? := by
  cases h with
  | nil => exact hm
  | other => exact hm
  | run =>
    obtain rfl := Option.some.inj hm
    cases hk

lemma Melts.apart_space (h : Melts ls ms) (hls : Apart .space ls) : Apart .space ms := by
  induction h with
  | nil => exact hls
  | other _ hms ih =>
    obtain ⟨hhead, htail⟩ := List.isChain_cons.mp hls
    refine List.isChain_cons.mpr ⟨fun m hm hboth => ?_, ih htail⟩
    have hword : m.isWord = false := by simp [isWord, hboth.2]
    exact hhead m (hms.mem_head? hm hword) hboth
  | run _ _ _ _ ih =>
    refine List.isChain_cons.mpr ⟨fun m _ hboth => ?_, ih hls.right_of_append⟩
    cases hboth.1

end

section

variable {strict : Bool} {l : Lexeme} {rest : Text}

lemma Munch.head_isBlank (h : Munch strict l rest) (hl : l.kind = .space) :
    l.text.head?.any Text.isBlank := by
  cases h with
  | @space t _ hne hb =>
    obtain ⟨c, cs, rfl⟩ := List.exists_cons_of_ne_nil hne
    exact hb c (by simp)
  | _ => cases hl

lemma Munch.rest_not_isBlank (h : Munch strict l rest) (hl : l.kind = .space) :
    rest.head?.any Text.isBlank = false := by
  cases h with
  | space _ _ hr => exact hr
  | _ => cases hl

end

lemma Munches.apart_space {strict : Bool} {t : Text} {ls : List Lexeme} (h : Munches strict t ls) :
    Apart .space ls := by
  induction h with
  | nil => exact List.isChain_nil
  | cons hl hls ih =>
    refine List.isChain_cons.mpr ⟨fun m hm hboth => ?_, ih⟩
    have hrest := hl.rest_not_isBlank hboth.1
    cases hls with
    | nil => cases hm
    | @cons k _ _ hk =>
      obtain rfl := Option.some.inj hm
      have hblank := hk.head_isBlank hboth.2
      obtain ⟨c, cs, htext⟩ := List.exists_cons_of_ne_nil hk.text_ne_nil
      rw [htext] at hrest hblank
      rw [List.cons_append, List.head?_cons] at hrest
      rw [List.head?_cons, hrest] at hblank
      cases hblank

end Lexeme

lemma WordRun.mem_of_rest {ls rest : List Lexeme} {k l : Lexeme} (h : (read ls).rest = k :: rest)
    (hl : l ∈ k :: rest) : l ∈ ls := by
  obtain ⟨ps, hsplit, -⟩ := read_split ls
  rw [hsplit, h]
  exact List.mem_append_right ps hl

namespace Parse

open Lexeme

-- Words end at the first lexeme that is neither plain nor blank, where a pipe, a separator or the
-- end of the line is expected.
lemma unexpected_not_isToken {afterPipe inChain : Bool} {n : Nat} {ls : List Lexeme} {m : Lexeme}
    (h : (lexemesFrom afterPipe inChain n ls).fault = some (.unexpected m)) :
    m ∈ ls ∧ ¬ m.IsToken := by
  fun_induction lexemesFrom afterPipe inChain n ls with
  | case1 =>
    dsimp only at h
    split_ifs at h
    cases h
  | case2 | case5 | case10 =>
    rename_i e he
    obtain ⟨-, a, vs, -, rfl⟩ := Command.ofWords_eq_error_iff.mp he
    cases h
  | case3 | case7 => cases h
  | case4 =>
    rename_i fault
    have hfault := Option.some.inj h
    dsimp only [fault] at hfault
    split_ifs at hfault
  | case6 | case8 | case9 | case11 =>
    rename_i ih
    obtain ⟨hmem, hnot⟩ := ih h
    exact ⟨WordRun.mem_of_rest (by assumption) (List.mem_cons_of_mem _ hmem), hnot⟩
  | case12 =>
    rename_i hr hpipe hseparator
    obtain rfl := ParseFault.unexpected.inj (Option.some.inj h)
    obtain ⟨-, -, -, -, hmarker⟩ := WordRun.read_split _
    obtain ⟨hplain, hspace⟩ := hmarker _ _ hr
    refine ⟨WordRun.mem_of_rest hr List.mem_cons_self, ?_⟩
    rintro (hk | hk | hk | hk)
    · exact hplain hk
    · exact hspace hk
    · exact hpipe hk
    · exact hseparator hk

end Parse

namespace Lexeme

theorem fuse_normal_form (ls : List Lexeme) (vars : Bindings) (line : Text) :
    (∀ l ∈ fuse ls, l.IsToken) ∧ Apart .plain (fuse ls) ∧ (∀ ms, fuse ls = ms ↔ Melts ls ms) ∧
    fuse (fuse ls) = fuse ls ∧ Apart .space (line.tokens vars) ∧
    ∀ l, (parse (line.tokens vars)).fault ≠ some (.unexpected l) := by
  have hls := melts_fuse ls
  have htokens := melts_fuse (line.expand vars).lexemes
  refine ⟨hls.isToken, hls.apart_plain, fun ms => fuse_eq_iff_melts, hls.self.fuse_eq, ?_, ?_⟩
  · exact htokens.apart_space (Text.munches_lexemes _).apart_space
  · intro l h
    obtain ⟨hl, hnot⟩ := Parse.unexpected_not_isToken h
    exact hnot (htokens.isToken l hl)

end Lexeme

end LineShell
