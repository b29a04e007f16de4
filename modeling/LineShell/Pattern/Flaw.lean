import LineShell.Breakdown
import LineShell.Pattern.Basic
import LineShell.Text.Quoted

namespace LineShell.Pattern

inductive NameKind where
  | group
  | character
  deriving DecidableEq, Repr

inductive Cause where
  | danglingEscape
  | incompleteEscape (text : Text)
  | badEscape (text : Text)
  | octalRange (text : Text)
  | missingBrace
  | undefinedCharacter (name : Text)
  | missingName (kind : NameKind)
  | unterminatedName (terminator : Char)
  | openGroup
  | groupInLookbehind
  | noSuchGroup (group : Nat)
  | unterminatedSet
  | badRange (first last : Text)
  | repeatOrder
  | nothingToRepeat
  | multipleRepeat
  | unexpectedEnd
  | badGroupName (name : Text)
  | unknownGroup (name : Text)
  | repeatedName (name : Text) (group previous : Nat)
  | unknownExtension (text : Text)
  | unterminatedComment
  | unterminatedGroup
  | groupNumber
  | tooManyBranches
  | lateFlags
  | localeFlag
  | alphabetFlags
  | missingFlagEnd
  | unknownFlag
  | globalFlagOn
  | missingFlag
  | alphabetFlagsOff
  | missingColon
  | globalFlagOff
  | flagOnAndOff
  | unbalanced
  | lookbehindWidth
  | repeatInTemplate (greed : Greed)
  deriving DecidableEq, Repr

namespace Cause

def message : Cause → Text
  | .danglingEscape => "bad escape (end of pattern)".toList
  | .incompleteEscape t => "incomplete escape ".toList ++ t
  | .badEscape t => "bad escape ".toList ++ t
  | .octalRange t => "octal escape value ".toList ++ t ++ " outside of range 0-0o377".toList
  | .missingBrace => "missing \x7b".toList
  | .undefinedCharacter n => "undefined character name ".toList ++ Text.quoted n
  | .missingName .group => "missing group name".toList
  | .missingName .character => "missing character name".toList
  | .unterminatedName c => "missing ".toList ++ c :: ", unterminated name".toList
  | .openGroup => "cannot refer to an open group".toList
  | .groupInLookbehind => "cannot refer to group defined in the same lookbehind subpattern".toList
  | .noSuchGroup g => "invalid group reference ".toList ++ Text.ofNat g
  | .unterminatedSet => "unterminated character set".toList
  | .badRange a b => "bad character range ".toList ++ a ++ '-' :: b
  | .repeatOrder => "min repeat greater than max repeat".toList
  | .nothingToRepeat => "nothing to repeat".toList
  | .multipleRepeat => "multiple repeat".toList
  | .unexpectedEnd => "unexpected end of pattern".toList
  | .badGroupName n => "bad character in group name ".toList ++ Text.quoted n
  | .unknownGroup n => "unknown group name ".toList ++ Text.quoted n
  | .repeatedName n g p =>
    "redefinition of group name ".toList ++ Text.quoted n ++ " as group ".toList ++ Text.ofNat g ++
      "; was group ".toList ++ Text.ofNat p
  | .unknownExtension t => "unknown extension ?".toList ++ t
  | .unterminatedComment => "missing ), unterminated comment".toList
  | .unterminatedGroup => "missing ), unterminated subpattern".toList
  | .groupNumber => "bad group number".toList
  | .tooManyBranches => "conditional backref with more than two branches".toList
  | .lateFlags => "global flags not at the start of the expression".toList
  | .localeFlag => "bad inline flags: cannot use 'L' flag with a str pattern".toList
  | .alphabetFlags => "bad inline flags: flags 'a', 'u' and 'L' are incompatible".toList
  | .missingFlagEnd => "missing -, : or )".toList
  | .unknownFlag => "unknown flag".toList
  | .globalFlagOn => "bad inline flags: cannot turn on global flag".toList
  | .missingFlag => "missing flag".toList
  | .alphabetFlagsOff => "bad inline flags: cannot turn off flags 'a', 'u' and 'L'".toList
  | .missingColon => "missing :".toList
  | .globalFlagOff => "bad inline flags: cannot turn off global flag".toList
  | .flagOnAndOff => "bad inline flags: flag turned on and off".toList
  | .unbalanced => "unbalanced parenthesis".toList
  | .lookbehindWidth => "look-behind requires fixed-width pattern".toList
  | .repeatInTemplate g =>
    "internal: unsupported template operator ".toList ++ match g with
      | .greedy => "MAX_REPEAT".toList
      | .lazy => "MIN_REPEAT".toList
      | .possessive => "POSSESSIVE_REPEAT".toList

end Cause

structure Flaw where
  cause : Cause
  position : Option Nat
  deriving DecidableEq, Repr

namespace Flaw

def line (pattern : Text) (pos : Nat) : Nat :=
  (pattern.take pos).count '\n' + 1

def column (pattern : Text) (pos : Nat) : Nat :=
  ((pattern.take pos).reverse.takeWhile (· ≠ '\n')).length + 1

def message (pattern : Text) (f : Flaw) : Text :=
  match f.position with
  | none => f.cause.message
  | some pos =>
    f.cause.message ++ " at position ".toList ++ Text.ofNat pos ++
      if pattern.contains '\n' then
        " (line ".toList ++ Text.ofNat (line pattern pos) ++ ", column ".toList ++
          Text.ofNat (column pattern pos) ++ [')']
      else []

end Flaw

inductive Rejection where
  | flaw (f : Flaw)
  | breakdown (b : Breakdown)
  deriving DecidableEq, Repr

end LineShell.Pattern
