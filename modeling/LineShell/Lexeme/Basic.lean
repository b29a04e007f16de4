import LineShell.Text.Basic

/-! Lexemes: classified pieces of a line. A lexeme keeps its exact source, quotes included; its
value is what it contributes to a word. -/

namespace LineShell

inductive Kind where
  | plain
  | ref
  | single
  | double
  | space
  | pipe
  | separator
  deriving DecidableEq, Repr

structure Lexeme where
  kind : Kind
  text : Text
  deriving DecidableEq, Repr

namespace Lexeme

def inner (t : Text) : Text :=
  t.tail.dropLast

def value (l : Lexeme) : Text :=
  match l.kind with
  | .single | .double => inner l.text
  | _ => l.text

def name (l : Lexeme) : Text :=
  match l.text with
  | '$' :: '{' :: rest => rest.dropLast
  | t => t.tail

def isWord (l : Lexeme) : Bool :=
  match l.kind with
  | .plain | .ref | .single | .double => true
  | .space | .pipe | .separator => false

def isMarker (l : Lexeme) : Bool :=
  l.kind == .pipe || l.kind == .separator

def join (ls : List Lexeme) : Text :=
  ls.flatMap (·.text)

def absorb (l : Lexeme) : List Lexeme → List Lexeme
  | ⟨.plain, t⟩ :: ls => if l.isWord then ⟨.plain, l.value ++ t⟩ :: ls else l :: ⟨.plain, t⟩ :: ls
  | ls => if l.isWord then ⟨.plain, l.value⟩ :: ls else l :: ls

def fuse (ls : List Lexeme) : List Lexeme :=
  ls.foldr absorb []

end Lexeme

end LineShell
