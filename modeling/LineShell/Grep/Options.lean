import LineShell.Breakdown

namespace LineShell.Grep

structure Options where
  ignoreCase : Bool := false
  word : Bool := false
  after : Nat := 0
  deriving DecidableEq, Repr

structure Request where
  options : Options
  pattern : Text
  paths : List Text
  deriving DecidableEq, Repr

inductive OptionFault where
  | contextLength (value : Text)
  | invalidOption (c : Char)
  | missingPattern
  | breakdown (b : Breakdown)
  deriving DecidableEq, Repr

def letters (o : Options) : Text → Except OptionFault Options
  | [] => .ok o
  | c :: cs =>
    if c = 'i' then letters { o with ignoreCase := true } cs
    else if c = 'w' then letters { o with word := true } cs
    else .error (.invalidOption c)

def contextLength (value : Text) : Except OptionFault Nat :=
  if !Text.isAsciiNumeral value then .error (.contextLength value)
  else if Text.digitLimit < value.length then .error (.breakdown (.digitLimit value.length))
  else .ok (Text.asciiValue value)

def operands (o : Options) : List Text → Except OptionFault Request
  | [] => .error .missingPattern
  | p :: paths => .ok ⟨o, p, paths⟩

def parseFrom (o : Options) : List Text → Except OptionFault Request
  | [] => .error .missingPattern
  | ['-', '-'] :: rest => operands o rest
  | ['-', 'A'] :: [] => (contextLength []).bind fun _ => .error .missingPattern
  | ['-', 'A'] :: value :: rest => do
    let n ← contextLength value
    parseFrom { o with after := n } rest
  | ('-' :: 'A' :: value) :: rest => do
    let n ← contextLength value
    parseFrom { o with after := n } rest
  | ('-' :: c :: cs) :: rest => do
    let o ← letters o (c :: cs)
    parseFrom o rest
  | operand :: rest => operands o (operand :: rest)

def parse (args : List Text) : Except OptionFault Request :=
  parseFrom {} args

end LineShell.Grep
