import LineShell.Text.Numeral
import LineShell.Text.Quoted

/-! The options of the command line. Long options may be shortened as long as they stay unique and
take their value behind an equals sign or as the next argument; short ones take it directly behind
them and may be strung together. All arguments are classified before any of them is used. A value of
two dashes is dropped. -/

namespace LineShell.CommandLine

inductive Opt where
  | help
  | command
  | cwd
  | debug
  deriving DecidableEq, Repr

namespace Opt

def names : Opt → List Text
  | .help => ["-h".toList, "--help".toList]
  | .command => ["-c".toList, "--command".toList]
  | .cwd => ["--cwd".toList]
  | .debug => ["--debug".toList]

def takesValue : Opt → Bool
  | .command | .cwd => true
  | .help | .debug => false

def spellings : List (Text × Opt) :=
  [Opt.help, .command, .cwd, .debug].flatMap fun o => o.names.map (·, o)

def ofName? (t : Text) : Option Opt :=
  spellings.lookup t

end Opt

inductive Misuse where
  | ambiguous (arg : Text) (candidates : List Text)
  | missingValue (o : Opt)
  | unusedValue (o : Opt) (value : Text)
  | unrecognized (args : List Text)
  deriving DecidableEq, Repr

namespace Misuse

def about (o : Opt) : Text :=
  "argument ".toList ++ Text.joinWith ['/'] o.names ++ ": ".toList

def message : Misuse → Text
  | .ambiguous arg candidates =>
    "ambiguous option: ".toList ++ arg ++ " could match ".toList ++
      Text.joinWith [',', ' '] candidates
  | .missingValue o => about o ++ "expected one argument".toList
  | .unusedValue o value => about o ++ "ignored explicit argument ".toList ++ Text.quoted value
  | .unrecognized args => "unrecognized arguments: ".toList ++ Text.joinWith [' '] args

end Misuse

structure Written where
  option : Opt
  short : Bool
  value : Option Text := none
  deriving DecidableEq, Repr

inductive Class where
  | operand
  | dashes
  | unknown
  | option (w : Written)
  deriving DecidableEq, Repr

/-- A numeral behind a minus sign, with or without a point; a line feed may follow. -/
def isNegativeNumeral (arg : Text) : Bool :=
  match arg with
  | '-' :: cs =>
    let cs := if cs.getLast? = some '\n' then cs.dropLast else cs
    match cs.dropWhile Text.isDecimal with
    | [] => !cs.isEmpty
    | '.' :: ds => !ds.isEmpty && ds.all Text.isDecimal
    | _ => false
  | _ => false

def cutValue (arg : Text) : Text × Option Text :=
  match arg.dropWhile (· ≠ '=') with
  | [] => (arg, none)
  | _ :: value => (arg.takeWhile (· ≠ '='), some value)

def isLong (name : Text) : Bool :=
  name.take 2 = ['-', '-']

def classifyDashed (arg : Text) : Except Misuse Class :=
  let (name, value) := cutValue arg
  match value, Opt.ofName? name with
  | some _, some o => .ok (.option ⟨o, !isLong name, value⟩)
  | _, _ =>
    let candidates :=
      if isLong arg then
        (Opt.spellings.filter fun s => name.isPrefixOf s.1).map fun s => (s.1, ⟨s.2, false, value⟩)
      else
        (Opt.spellings.filter fun s => s.1 = arg.take 2).map fun s =>
          (s.1, ⟨s.2, true, some (arg.drop 2)⟩)
    match candidates with
    | [(_, w)] => .ok (.option w)
    | [] => .ok (if isNegativeNumeral arg || arg.contains ' ' then .operand else .unknown)
    | _ => .error (.ambiguous arg (candidates.map (·.1)))

def classify (arg : Text) : Except Misuse Class :=
  if arg.head? ≠ some '-' || arg = ['-'] then .ok .operand
  else match Opt.ofName? arg with
    | some o => .ok (.option ⟨o, !isLong arg, none⟩)
    | none => classifyDashed arg

def classifyAll : List Text → Except Misuse (List (Text × Class))
  | [] => .ok []
  | arg :: rest =>
    if arg = ['-', '-'] then .ok ((arg, .dashes) :: rest.map (·, .operand))
    else do
      let c ← classify arg
      let cs ← classifyAll rest
      return (arg, c) :: cs

structure Cluster where
  given : List (Opt × Option Text) := []
  waiting : Option Opt := none

namespace Cluster

def cons (o : Opt) (c : Cluster) : Cluster :=
  { c with given := (o, none) :: c.given }

def ofBare (o : Opt) : Cluster :=
  if o.takesValue then { waiting := some o } else { given := [(o, none)] }

def ofValue (o : Opt) (short : Bool) (value : Text) : Except Misuse Cluster :=
  if o.takesValue then .ok { given := [(o, some value)] }
  else match value with
    | [] => .error (.unusedValue o value)
    | c :: cs =>
      match if short then Opt.ofName? ['-', c] else none with
      | none => .error (.unusedValue o value)
      | some p =>
        match cs with
        | [] => .ok ((ofBare p).cons o)
        | d :: ds => (ofValue p true (d :: ds)).map (cons o)
termination_by value.length

def ofWritten (w : Written) : Except Misuse Cluster :=
  match w.value with
  | none => .ok (ofBare w.option)
  | some value => ofValue w.option w.short value

end Cluster

/-- A setting that takes a value. It may be absent, and it may be there with its value dropped. -/
inductive Setting where
  | absent
  | dropped
  | value (t : Text)
  deriving DecidableEq, Repr

namespace Setting

def ofValue (v : Option Text) : Setting :=
  match v with
  | none => .absent
  | some t => if t = ['-', '-'] then .dropped else .value t

end Setting

structure Settings where
  command : Setting := .absent
  cwd : Setting := .absent
  debug : Bool := false
  deriving DecidableEq, Repr

inductive Verdict where
  | settings (s : Settings)
  | help
  | misuse (m : Misuse)
  deriving DecidableEq, Repr

namespace Settings

def give (s : Settings) : List (Opt × Option Text) → Option Settings
  | [] => some s
  | (.help, _) :: _ => none
  | (.command, v) :: rest => give { s with command := .ofValue v } rest
  | (.cwd, v) :: rest => give { s with cwd := .ofValue v } rest
  | (.debug, _) :: rest => give { s with debug := true } rest

def collect (s : Settings) (extra : List Text) : List (Text × Class) → Verdict
  | [] => if extra.isEmpty then .settings s else .misuse (.unrecognized extra)
  | (_, .option w) :: rest =>
    match Cluster.ofWritten w with
    | .error m => .misuse m
    | .ok c =>
      match c.waiting with
      | none =>
        match s.give c.given with
        | none => .help
        | some s => collect s extra rest
      | some o =>
        match rest with
        | (value, .operand) :: more =>
          match s.give (c.given ++ [(o, some value)]) with
          | none => .help
          | some s => collect s extra more
        | _ => .misuse (.missingValue o)
  | (arg, _) :: rest => collect s (extra ++ [arg]) rest

end Settings

def verdict (args : List Text) : Verdict :=
  match classifyAll args with
  | .error m => .misuse m
  | .ok cs => Settings.collect {} [] cs

end LineShell.CommandLine
