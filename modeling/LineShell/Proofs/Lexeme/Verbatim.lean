import LineShell.Proofs.Command.Parse
import LineShell.Proofs.Lexeme.References
import LineShell.Proofs.Lexeme.Seam
import LineShell.Shell.Basic

namespace LineShell

namespace Text

def shielded (c : Char) : Text :=
  if c = '\'' then ['\'', '"', '\'', '"', '\''] else [c]

def verbatim (w : Text) : Text :=
  '\'' :: w.flatMap shielded ++ ['\'']

end Text

namespace Lexeme

def verbatimFrom (piece : Text) : Text → List Lexeme
  | [] => [⟨.single, '\'' :: piece ++ ['\'']⟩]
  | c :: w =>
    if c = '\'' then
      ⟨.single, '\'' :: piece ++ ['\'']⟩ :: ⟨.double, ['"', '\'', '"']⟩ :: verbatimFrom [] w
    else verbatimFrom (piece ++ [c]) w

def blank : Lexeme := ⟨.space, [' ']⟩

def spaced (ws : List Text) : List Lexeme :=
  (ws.map (mk .plain)).intersperse blank

lemma verbatimFrom_quote (piece w : Text) : verbatimFrom piece ('\'' :: w) =
    ⟨.single, '\'' :: piece ++ ['\'']⟩ :: ⟨.double, ['"', '\'', '"']⟩ :: verbatimFrom [] w :=
  if_pos rfl

lemma verbatimFrom_of_ne {c : Char} (hc : c ≠ '\'') (piece w : Text) :
    verbatimFrom piece (c :: w) = verbatimFrom (piece ++ [c]) w :=
  if_neg hc

lemma munches_verbatimFrom {strict : Bool} {piece : Text} (hp : '\'' ∉ piece) (w : Text)
    {rest : Text} {ms : List Lexeme} (h : Munches strict rest ms) :
    Munches strict ('\'' :: (piece ++ (w.flatMap Text.shielded ++ '\'' :: rest)))
      (verbatimFrom piece w ++ ms) := by
  induction w generalizing piece with
  | nil =>
    have hcut := Munches.cons (.single hp) h
    simpa [verbatimFrom] using hcut
  | cons c w ih =>
    by_cases hc : c = '\''
    · subst hc
      have hquote : '"' ∉ ['\''] := by decide
      have hcut := Munches.cons (.single hp) (.cons (.double hquote) (ih List.not_mem_nil))
      simpa [verbatimFrom_quote, Text.shielded] using hcut
    · have hpiece : '\'' ∉ piece ++ [c] := by simpa [hp] using Ne.symm hc
      simpa [verbatimFrom_of_ne hc, Text.shielded, hc] using ih hpiece

lemma substitute_verbatimFrom (vars : Bindings) (piece w : Text) :
    ∀ l ∈ verbatimFrom piece w, l.substitute vars = l := by
  induction w generalizing piece with
  | nil => exact List.forall_mem_singleton.mpr rfl
  | cons c w ih =>
    by_cases hc : c = '\''
    · subst hc
      rw [verbatimFrom_quote]
      refine List.forall_mem_cons.mpr ⟨rfl, List.forall_mem_cons.mpr ⟨?_, ih []⟩⟩
      have hfill : fill vars ['\''] = ['\''] := fill_of_not_mem (by decide) vars
      simp [substitute, value, inner, hfill]
    · rw [verbatimFrom_of_ne hc]
      exact ih (piece ++ [c])

-- The pieces melt into one word, up to the blank behind them.
lemma fuse_verbatimFrom (piece w : Text) {ms : List Lexeme}
    (hms : ∀ k ks, fuse ms = k :: ks → k.kind ≠ .plain) :
    fuse (verbatimFrom piece w ++ ms) = ⟨.plain, piece ++ w⟩ :: fuse ms := by
  induction w generalizing piece with
  | nil =>
    change absorb ⟨.single, '\'' :: piece ++ ['\'']⟩ (fuse ms) = _
    cases hf : fuse ms with
    | nil => simp [absorb, isWord, value, inner]
    | cons k ks =>
      rw [absorb_of_ne_plain rfl (hms k ks hf)]
      simp [value, inner]
  | cons c w ih =>
    by_cases hc : c = '\''
    · subst hc
      rw [verbatimFrom_quote]
      change absorb _ (absorb _ (fuse (verbatimFrom [] w ++ ms))) = _
      rw [ih, absorb_plain rfl rfl, absorb_plain rfl rfl]
      simp [value, inner]
    · rw [verbatimFrom_of_ne hc, ih]
      simp

def verbatimWords (w : Text) : List Text → List Lexeme
  | [] => verbatimFrom [] w
  | v :: vs => verbatimFrom [] w ++ blank :: verbatimWords v vs

lemma munches_verbatimWords (strict : Bool) (w : Text) (ws : List Text) :
    Munches strict (Text.joinWith [' '] ((w :: ws).map Text.verbatim)) (verbatimWords w ws) := by
  induction ws generalizing w with
  | nil =>
    have hcut := munches_verbatimFrom List.not_mem_nil w (.nil : Munches strict [] [])
    simpa [verbatimWords, Text.joinWith, Text.verbatim] using hcut
  | cons v vs ih =>
    have hopen : (Text.joinWith [' '] ((v :: vs).map Text.verbatim)).head?.any Text.isBlank =
        false := by
      cases vs <;> rfl
    have hblank : ∀ c ∈ [' '], Text.isBlank c := List.forall_mem_singleton.mpr rfl
    have hrest : Munches strict (' ' :: Text.joinWith [' '] ((v :: vs).map Text.verbatim))
        (blank :: verbatimWords v vs) :=
      Munches.cons (l := blank) (.space (by simp) hblank hopen) (ih v)
    have hcut := munches_verbatimFrom List.not_mem_nil w hrest
    simpa [verbatimWords, Text.joinWith, Text.verbatim] using hcut

lemma substitute_verbatimWords (vars : Bindings) (w : Text) (ws : List Text) :
    ∀ l ∈ verbatimWords w ws, l.substitute vars = l := by
  induction ws generalizing w with
  | nil => exact substitute_verbatimFrom vars [] w
  | cons v vs ih =>
    intro l hl
    rcases List.mem_append.mp hl with hl | hl
    · exact substitute_verbatimFrom vars [] w l hl
    · rcases List.mem_cons.mp hl with rfl | hl
      · rfl
      · exact ih v l hl

lemma fuse_verbatimWords (w : Text) (ws : List Text) :
    fuse (verbatimWords w ws) = spaced (w :: ws) := by
  induction ws generalizing w with
  | nil =>
    have hend : ∀ k ks, fuse [] = k :: ks → k.kind ≠ .plain := by simp [fuse]
    have hword := fuse_verbatimFrom [] w hend
    rw [List.append_nil] at hword
    simpa [verbatimWords, spaced, fuse] using hword
  | cons v vs ih =>
    have hblank : fuse (blank :: verbatimWords v vs) = blank :: spaced (v :: vs) := by
      change absorb blank (fuse _) = _
      rw [ih, absorb_of_not_isWord rfl]
    have hend : ∀ k ks, fuse (blank :: verbatimWords v vs) = k :: ks → k.kind ≠ .plain := by
      intro k ks hk
      obtain ⟨rfl, -⟩ := List.cons.inj (hblank.symm.trans hk)
      decide
    have hword := fuse_verbatimFrom [] w hend
    rw [hblank] at hword
    simpa [verbatimWords, spaced] using hword

end Lexeme

open Lexeme

lemma WordRun.read_spaced (w : Text) (ws : List Text) :
    WordRun.read (spaced (w :: ws)) = ⟨w :: ws, []⟩ := by
  induction ws generalizing w with
  | nil => rfl
  | cons v vs ih =>
    have hread : WordRun.read (spaced (w :: v :: vs)) =
        ⟨w :: (WordRun.read (spaced (v :: vs))).words, (WordRun.read (spaced (v :: vs))).rest⟩ := rfl
    rw [hread, ih]

namespace Text

lemma expand_eq_self {strict : Bool} {t : Text} {ls : List Lexeme} {vars : Bindings}
    (h : Munches strict t ls) (hls : ∀ l ∈ ls, l.substitute vars = l) : expand vars t = t := by
  rw [expand, lexemes_of_munches h, List.map_congr_left hls, List.map_id', h.join]

variable (vars : Bindings) (w : Text) (ws : List Text)

lemma expand_verbatim :
    expand vars (joinWith [' '] ((w :: ws).map verbatim)) =
      joinWith [' '] ((w :: ws).map verbatim) :=
  expand_eq_self (munches_verbatimWords false w ws) (substitute_verbatimWords vars w ws)

lemma tokens_verbatim :
    tokens vars (joinWith [' '] ((w :: ws).map verbatim)) = spaced (w :: ws) := by
  rw [tokens, expand_verbatim, lexemes_of_munches (munches_verbatimWords false w ws),
    fuse_verbatimWords]

end Text

namespace Shell

theorem parse_verbatim_words (c : Context) (w : Text) (ws : List Text) :
    let line := Text.joinWith [' '] ((w :: ws).map Text.verbatim)
    line.expand c.get? = line ∧
    line.tokens c.get? = ((w :: ws).map (Lexeme.mk .plain)).intersperse ⟨.space, [' ']⟩ ∧
    parse c line = match Command.ofWords w ws with
      | .ok k => ⟨[(k, 2 * ws.length + 1)], none, 2 * ws.length + 1⟩
      | .error e => ⟨[], some e, 2 * ws.length + 1⟩ := by
  refine ⟨Text.expand_verbatim _ w ws, Text.tokens_verbatim _ w ws, ?_⟩
  have hread := WordRun.read_spaced w ws
  have hlength : (spaced (w :: ws)).length = 2 * ws.length + 1 := by
    simp [spaced]
    omega
  rw [parse, Text.tokens_verbatim, Lexeme.parse, Parse.lexemesFrom_end (by rw [hread]), hread,
    hlength]
  cases hw : Command.ofWords w ws with
  | ok k => simp [hw]
  | error e => simp [hw]

end Shell

end LineShell
