import LineShell.Pattern.Flaw

namespace LineShell.Pattern

inductive Token where
  | char (c : Char)
  | escape (c : Char)
  | dangling
  deriving DecidableEq, Repr

namespace Token

def text : Token → Text
  | .char c => [c]
  | .escape c => ['\\', c]
  | .dangling => ['\\']

def ofText : Text → List Token
  | [] => []
  | ['\\'] => [.dangling]
  | '\\' :: c :: cs => .escape c :: ofText cs
  | c :: cs => .char c :: ofText cs

def isIn (p : Char → Bool) : Token → Bool
  | .char c => p c
  | _ => false

end Token

inductive Flag where
  | ignoreCase
  | locale
  | multiline
  | dotAll
  | verbose
  | ascii
  | template
  | unicode
  deriving DecidableEq, Repr

namespace Flag

def ofChar? : Char → Option Flag
  | 'i' => some .ignoreCase
  | 'L' => some .locale
  | 'm' => some .multiline
  | 's' => some .dotAll
  | 'x' => some .verbose
  | 'a' => some .ascii
  | 't' => some .template
  | 'u' => some .unicode
  | _ => none

def isAlphabet (f : Flag) : Bool :=
  f == .ascii || f == .locale || f == .unicode

end Flag

/-- `groups` holds the widths of the groups so far, none for a group that is open; `lookbehind` is
the number of the first group that may not be referred to, inside a look-behind; `conditions` are
the groups that conditions ask for, each with the position where it was first named. `charNames`
are the names of characters that are known. -/
structure Reader where
  tokens : List Token
  pos : Nat := 0
  flags : List Flag := []
  groups : List (Option Width) := []
  names : List (Text × Nat) := []
  lookbehind : Option Nat := none
  conditions : List (Nat × Nat) := []
  charNames : Text → Option Char

abbrev Reading := StateT Reader (Except Rejection)

namespace Reading

def failAt {α : Type} (cause : Cause) (pos : Nat) : Reading α :=
  throw (.flaw ⟨cause, some pos⟩)

def fail {α : Type} (cause : Cause) (offset : Nat) : Reading α := do
  failAt cause ((← get).pos - offset)

def tell : Reading Nat := do
  return (← get).pos

def peek : Reading (Option Token) := do
  return (← get).tokens.head?

def checkNext : Reading Unit := do
  let r ← get
  if r.tokens.head? = some .dangling then failAt .danglingEscape r.pos

def advance : Reading Unit := do
  let r ← get
  match r.tokens with
  | [] => pure ()
  | t :: ts =>
    set { r with tokens := ts, pos := r.pos + t.text.length }
    checkNext

def next : Reading (Option Token) := do
  let t ← peek
  advance
  return t

def accept (c : Char) : Reading Bool := do
  if (← peek) = some (.char c) then
    advance
    return true
  else return false

def takeWhile (p : Char → Bool) : (n : Nat) → Reading Text
  | 0 => return []
  | n + 1 => do
    match ← peek with
    | some (.char c) =>
      if p c then
        advance
        return c :: (← takeWhile p n)
      else return []
    | _ => return []

def takeAll (p : Char → Bool) : Reading Text := do
  takeWhile p (← get).tokens.length

def takeUntilFrom (terminator : Char) (kind : NameKind) : (fuel : Nat) → Text → Reading Text
  | 0, _ => fail (.missingName kind) 0
  | fuel + 1, name => do
    match ← next with
    | none =>
      if name.isEmpty then fail (.missingName kind) 0
      else fail (.unterminatedName terminator) name.length
    | some t =>
      if t = .char terminator then
        if name.isEmpty then fail (.missingName kind) 1 else return name
      else takeUntilFrom terminator kind fuel (name ++ t.text)

def takeUntil (terminator : Char) (kind : NameKind) : Reading Text := do
  takeUntilFrom terminator kind ((← get).tokens.length + 1) []

def skipUntil (terminator : Char) : (fuel : Nat) → Reading Bool
  | 0 => return false
  | fuel + 1 => do
    match ← next with
    | none => return false
    | some t => if t = .char terminator then return true else skipUntil terminator fuel

def groupCount : Reading Nat := do
  return (← get).groups.length

def closedWidth? (group : Nat) : Reading (Option Width) := do
  return ((← get).groups[group - 1]?).join

def checkLookbehind (group : Nat) : Reading Unit := do
  match (← get).lookbehind with
  | none => pure ()
  | some first =>
    if (← closedWidth? group).isNone then fail .openGroup 0
    if first ≤ group then fail .groupInLookbehind 0

def reference (mode : Mode) (group pos : Nat) : Reading Node := do
  match ← closedWidth? group with
  | none => failAt .openGroup pos
  | some w =>
    checkLookbehind group
    return .backref mode group w

end Reading

end LineShell.Pattern
