import LineShell.Text.Basic

/-! Search patterns as trees. Modes are resolved while a pattern is read, so each node carries the
ones it was written under. Code points are numbers here, since a pattern may name a surrogate, which
no text holds. -/

namespace LineShell.Pattern

structure Mode where
  ignoreCase : Bool := false
  ascii : Bool := false
  multiline : Bool := false
  dotAll : Bool := false
  deriving DecidableEq, Repr

inductive Category where
  | digit
  | space
  | word
  deriving DecidableEq, Repr

inductive Member where
  | code (n : Nat)
  | range (first last : Nat)
  | category (k : Category) (negated : Bool)
  deriving DecidableEq, Repr

inductive CharTest where
  | code (n : Nat) (negated : Bool)
  | any
  | set (negated : Bool) (members : List Member)
  deriving DecidableEq, Repr

inductive Anchor where
  | start
  | stop
  | textStart
  | textStop
  | boundary
  | interior
  deriving DecidableEq, Repr

inductive Greed where
  | greedy
  | lazy
  | possessive
  deriving DecidableEq, Repr

/-- The least and the greatest length of what a pattern matches. Lengths from `Width.limit` on are
not told apart, and the least one is cut one lower, so that a pattern that long has no fixed
length. -/
structure Width where
  least : Nat
  most : Nat
  deriving DecidableEq, Repr

namespace Width

def limit : Nat := 4294967295

def zero : Width := ⟨0, 0⟩

def one : Width := ⟨1, 1⟩

def cut (w : Width) : Width :=
  ⟨min w.least (limit - 1), min w.most limit⟩

def add (v w : Width) : Width :=
  cut ⟨v.least + w.least, v.most + w.most⟩

def or (v w : Width) : Width :=
  ⟨min v.least w.least, max v.most w.most⟩

def times (least : Nat) (most : Option Nat) (w : Width) : Width :=
  cut ⟨w.least * least, match most with
    | some n => w.most * n
    | none => if w.most = 0 then 0 else limit⟩

end Width

inductive Node where
  | empty
  | char (mode : Mode) (test : CharTest)
  | anchor (mode : Mode) (at' : Anchor)
  | backref (mode : Mode) (group : Nat) (width : Width)
  | seq (first second : Node)
  | alt (first second : Node)
  | capture (group : Nat) (body : Node)
  | scoped (body : Node)
  | atomic (body : Node)
  | look (behind negated : Bool) (body : Node)
  | choose (group : Nat) (yes no : Node)
  | rep (greed : Greed) (least : Nat) (most : Option Nat) (body : Node)
  deriving DecidableEq, Repr

namespace Node

def ofList : List Node → Node
  | [] => .empty
  | [n] => n
  | n :: ns => .seq n (ofList ns)

def ofAlternatives : List Node → Node
  | [] => .empty
  | [n] => n
  | n :: ns => .alt n (ofAlternatives ns)

def width : Node → Width
  | .empty | .anchor .. | .look .. => .zero
  | .char .. => .one
  | .backref _ _ w => w
  | .seq a b => a.width.add b.width
  | .alt a b | .choose _ a b => a.width.or b.width
  | .capture _ b | .scoped b | .atomic b => b.width
  | .rep _ least most b => b.width.times least most

end Node

end LineShell.Pattern
