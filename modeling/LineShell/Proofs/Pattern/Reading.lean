import LineShell.Pattern.Search
import Mathlib.Data.List.Infix

/-! Readings of a pattern, as triples: what is known of the reader before and behind them, and what
in the text of the pattern can break them down. -/

namespace LineShell.Pattern

inductive Counted (t : Text) : Text → Prop
  | only {ds : Text} : '\x7b' :: ds ++ ['\x7d'] <:+: t → Counted t ds
  | least {ds high : Text} : '\x7b' :: ds ++ ',' :: high ++ ['\x7d'] <:+: t → Counted t ds
  | most {low ds : Text} : '\x7b' :: low ++ ',' :: ds ++ ['\x7d'] <:+: t → Counted t ds

inductive Overrun (t : Text) : Breakdown → Prop
  | digits {ds : Text} : Counted t ds → (∀ c ∈ ds, c.isDigit) → Text.digitLimit < ds.length →
    Overrun t (.digitLimit ds.length)
  | repetition {ds : Text} : Counted t ds → (∀ c ∈ ds, c.isDigit) →
    repetitionLimit ≤ Text.asciiValue ds → Overrun t .repetitionLimit
  | alphabets : 'a' ∈ t → 'u' ∈ t → Overrun t .alphabetConflict

namespace Token

end Token

def FlagOf (t : Text) (f : Flag) : Prop :=
  f = .ignoreCase ∨ ∃ c ∈ t, Flag.ofChar? c = some f

structure At (t : Text) (seen : List Token) (r : Reader) : Prop where
  split : Token.ofText t = seen ++ r.tokens
  flags : ∀ f ∈ r.flags, FlagOf t f

def Reads (t : Text) (r : Reader) : Prop :=
  ∃ seen, At t seen r

namespace Reading

variable {α β : Type} {t : Text} {P : Reader → Prop} {Q : α → Reader → Prop}

/-- From a reader with `P`, a reading gives a value and a reader with `Q`, or finds a flaw; it
breaks down only on what the text holds. -/
structure Triple (t : Text) (P : Reader → Prop) (m : Reading α) (Q : α → Reader → Prop) :
    Prop where
  ok : ∀ r a r', P r → m r = .ok (a, r') → Q a r'
  breakdown : ∀ r b, P r → m r = .error (.breakdown b) → Overrun t b

lemma Triple.imp {P' : Reader → Prop} {Q' : α → Reader → Prop} {m : Reading α}
    (h : Triple t P m Q) (hP : ∀ r, P' r → P r) (hQ : ∀ a r, Q a r → Q' a r) :
    Triple t P' m Q' where
  ok r a r' hr hrun := hQ a r' (h.ok r a r' (hP r hr) hrun)
  breakdown r b hr hrun := h.breakdown r b (hP r hr) hrun

lemma Triple.at {m : Reading α} (seen : List Token) (h : Triple t (Reads t) m Q) :
    Triple t (At t seen) m Q :=
  h.imp (fun _ hr => ⟨seen, hr⟩) fun _ _ h => h

end Reading

end LineShell.Pattern
