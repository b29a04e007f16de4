import LineShell.Lexeme.Scan

/-! Reading a command from a terminal. It goes on over lines that end in a backslash, which is
dropped, and over line breaks inside quotes, which are kept. -/

namespace LineShell

abbrev TerminalItem := Option Text

inductive EntryEnd where
  | command (text : Text)
  | interrupted
  | ended
  deriving DecidableEq, Repr

structure Entry where
  prompts : List Text
  ending : EntryEnd
  rest : List TerminalItem
  deriving DecidableEq, Repr

namespace Entry

def prompt : Text := ['$', ' ']

def continuationPrompt : Text := ['>', ' ']

def readFrom (shown text : Text) : List TerminalItem → Entry
  | [] => ⟨[shown], .ended, []⟩
  | none :: rest => ⟨[shown], .interrupted, rest⟩
  | some line :: rest =>
    if line.getLast? = some '\\' then
      let e := readFrom continuationPrompt (text ++ line.dropLast) rest
      { e with prompts := shown :: e.prompts }
    else if (text ++ line).isComplete then ⟨[shown], .command (text ++ line), rest⟩
    else
      let e := readFrom continuationPrompt (text ++ line ++ ['\n']) rest
      { e with prompts := shown :: e.prompts }

def read (items : List TerminalItem) : Entry :=
  readFrom prompt [] items

theorem rest_length_readFrom (shown text : Text) (items : List TerminalItem) :
    (readFrom shown text items).ending = .ended ∨
      (readFrom shown text items).rest.length < items.length := by
  induction items generalizing shown text with
  | nil => exact .inl rfl
  | cons item rest ih =>
    cases item with
    | none => exact .inr (Nat.lt_succ_self _)
    | some line =>
      simp only [readFrom]
      split
      · exact (ih _ _).imp_right fun h => Nat.lt_succ_of_lt h
      · split
        · exact .inr (Nat.lt_succ_self _)
        · exact (ih _ _).imp_right fun h => Nat.lt_succ_of_lt h

theorem rest_length_lt {items : List TerminalItem} (h : (read items).ending ≠ .ended) :
    (read items).rest.length < items.length :=
  (rest_length_readFrom prompt [] items).resolve_left h

end Entry

end LineShell
