namespace LineShell

abbrev Text := List Char

namespace Text

def joinWith (sep : Text) : List Text → Text
  | [] => []
  | [t] => t
  | t :: ts => t ++ sep ++ joinWith sep ts

def cutAt (sep : Char) : Text → List Text
  | [] => [[]]
  | c :: cs =>
    if c = sep then [] :: cutAt sep cs
    else match cutAt sep cs with
      | [] => [[c]]
      | t :: ts => (c :: t) :: ts

def dropEnd (p : Char → Bool) (t : Text) : Text :=
  (t.reverse.dropWhile p).reverse

def ofNat (n : Nat) : Text :=
  Nat.toDigits 10 n

def ofInt : Int → Text
  | .ofNat n => ofNat n
  | .negSucc n => '-' :: ofNat (n + 1)

end Text

end LineShell
