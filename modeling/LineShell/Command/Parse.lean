import LineShell.Command.Basic
import LineShell.Lexeme.Basic

/-! Grouping fused lexemes into commands:

    line    := chain? (';' chain?)*
    chain   := command ('|' command)*
    command := WORD (SPACE WORD)*

Commands come one by one, so those before a fault are kept, each with the number of lexemes read
when it was complete. A closed chain ends with a flush. -/

namespace LineShell

inductive ParseFault where
  | unexpected (l : Lexeme)
  | argumentAfterAssignment (argument : Text)
  | missingAfterPipe (found : Option Lexeme)
  | missingBeforePipe (found : Lexeme)
  deriving DecidableEq, Repr

namespace ParseFault

def lexeme : ParseFault → Option Lexeme
  | .unexpected l => some l
  | .argumentAfterAssignment _ => none
  | .missingAfterPipe found => found
  | .missingBeforePipe found => some found

def message : ParseFault → Text
  | .unexpected l => "unexpected token ".toList ++ Text.quoted l.text
  | .argumentAfterAssignment a => "unexpected argument after assignment: ".toList ++ Text.quoted a
  | .missingAfterPipe _ => "expected a command after '|'".toList
  | .missingBeforePipe _ => "expected a command before '|'".toList

end ParseFault

structure WordRun where
  words : List Text
  rest : List Lexeme
  deriving DecidableEq, Repr

namespace WordRun

def read : List Lexeme → WordRun
  | [] => ⟨[], []⟩
  | l :: ls =>
    match l.kind with
    | .space => read ls
    | .plain => let r := read ls; ⟨l.value :: r.words, r.rest⟩
    | _ => ⟨[], l :: ls⟩

def fault (r : WordRun) : Option ParseFault :=
  match r.rest with
  | [] => none
  | l :: _ => if l.isMarker then none else some (.unexpected l)

theorem rest_length_le (ls : List Lexeme) : (read ls).rest.length ≤ ls.length := by
  induction ls with
  | nil => simp [read]
  | cons l ls ih =>
    unfold read
    split
    · simp only [List.length_cons]
      omega
    · simp only [List.length_cons]
      omega
    · exact Nat.le_refl _

end WordRun

def Command.ofWords (name : Text) (args : List Text) : Except ParseFault Command :=
  match Command.assignment? name, args with
  | none, _ => .ok (.simple name args)
  | some (n, v), [] => .ok (.assign n v)
  | some _, a :: _ => .error (.argumentAfterAssignment a)

structure Parse where
  commands : List (Command × Nat)
  fault : Option ParseFault
  consumed : Nat
  deriving DecidableEq, Repr

namespace Parse

def cons (c : Command) (consumed : Nat) (p : Parse) : Parse :=
  { p with commands := (c, consumed) :: p.commands }

/-- Parses lexemes of which `read` were read before. `afterPipe` says that a pipe waits for its
command, `inChain` that the open chain has a command. -/
def lexemesFrom (afterPipe inChain : Bool) (read : Nat) (ls : List Lexeme) : Parse :=
  let run := WordRun.read ls
  let read := read + (ls.length - run.rest.length)
  match _h : run.rest with
  | [] =>
    match run.words with
    | [] => ⟨[], if afterPipe then some (.missingAfterPipe none) else none, read⟩
    | w :: ws =>
      match Command.ofWords w ws with
      | .error e => ⟨[], some e, read⟩
      | .ok c => ⟨[(c, read)], none, read⟩
  | m :: rest =>
    if m.kind = .pipe then
      match run.words with
      | [] =>
        let fault := if afterPipe then .missingAfterPipe (some m) else .missingBeforePipe m
        ⟨[], some fault, read + 1⟩
      | w :: ws =>
        match Command.ofWords w ws with
        | .error e => ⟨[], some e, read + 1⟩
        | .ok c => (lexemesFrom true true (read + 1) rest).cons c (read + 1)
    else if m.kind = .separator then
      match run.words with
      | [] =>
        if afterPipe then ⟨[], some (.missingAfterPipe (some m)), read + 1⟩
        else if inChain then (lexemesFrom false false (read + 1) rest).cons .flush (read + 1)
        else lexemesFrom false false (read + 1) rest
      | w :: ws =>
        match Command.ofWords w ws with
        | .error e => ⟨[], some e, read + 1⟩
        | .ok c =>
          ((lexemesFrom false false (read + 1) rest).cons .flush (read + 1)).cons c (read + 1)
    else ⟨[], some (.unexpected m), read⟩
termination_by ls.length
decreasing_by
  all_goals
    have hl := WordRun.rest_length_le ls
    simp_all only [List.length_cons, run]
    omega

end Parse

def Lexeme.parse (ls : List Lexeme) : Parse :=
  Parse.lexemesFrom false false 0 ls

end LineShell
