import LineShell.Text.Integer

namespace LineShell

inductive Breakdown where
  | nullByte
  | digitLimit (digits : Nat)
  | repetitionLimit
  | alphabetConflict
  | lookbehindReach
  | noPath
  | undefined
  deriving DecidableEq, Repr

def Breakdown.message : Breakdown → Text
  | .nullByte => "embedded null byte".toList
  | .digitLimit n =>
    "Exceeds the limit (".toList ++ Text.ofNat Text.digitLimit ++
      " digits) for integer string conversion: value has ".toList ++ Text.ofNat n ++
      " digits; use sys.set_int_max_str_digits() to increase the limit".toList
  | .repetitionLimit => "the repetition number is too large".toList
  | .alphabetConflict => "ASCII and UNICODE flags are incompatible".toList
  | .lookbehindReach => "invalid SRE code".toList
  | .noPath => "expected str, bytes or os.PathLike object, not list".toList
  | .undefined => []

end LineShell
