import LineShell.Lexeme.Scan

namespace LineShell

abbrev Bindings := Text → Option Text

namespace Lexeme

def resolve (vars : Bindings) (l : Lexeme) : Lexeme :=
  if l.kind = .ref then ⟨.plain, (vars l.name).getD []⟩ else l

def fill (vars : Bindings) (t : Text) : Text :=
  join (t.references.map (resolve vars))

def substitute (vars : Bindings) (l : Lexeme) : Lexeme :=
  match l.kind with
  | .double => ⟨.double, '"' :: fill vars l.value ++ ['"']⟩
  | _ => l.resolve vars

end Lexeme

def Text.expand (vars : Bindings) (line : Text) : Text :=
  Lexeme.join (line.lexemes.map (Lexeme.substitute vars))

def Text.tokens (vars : Bindings) (line : Text) : List Lexeme :=
  Lexeme.fuse (line.expand vars).lexemes

end LineShell
