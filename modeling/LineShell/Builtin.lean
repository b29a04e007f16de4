import LineShell.Fault
import LineShell.Grep.Selection
import LineShell.World.Basic

/-! The commands of the shell itself. They see the world, the working directory, their arguments and
the pipe value, and nothing else. -/

namespace LineShell

inductive Outcome where
  | value (pipe : Option Text)
  | moved (cwd : Text)
  deriving DecidableEq, Repr

structure Counts where
  lines : Nat := 0
  words : Nat := 0
  octets : Nat := 0
  deriving DecidableEq, Repr

namespace Counts

def ofText (t : Text) : Counts where
  lines := t.count '\n'
  words := t.wordCount
  octets := t.octetCount

def add (a b : Counts) : Counts :=
  ⟨a.lines + b.lines, a.words + b.words, a.octets + b.octets⟩

def total (cs : List Counts) : Counts :=
  cs.foldl add {}

def render (c : Counts) : Text :=
  Text.ofNat c.lines ++ ' ' :: Text.ofNat c.words ++ ' ' :: Text.ofNat c.octets

end Counts

structure Site where
  world : World
  cwd : Text

namespace Site

def readFile (s : Site) (command path : Text) : Except Fault Text :=
  match s.world.resolve s.cwd path with
  | .error b => .error (.breakdown b)
  | .ok full =>
    match s.world.tree.read full with
    | .error .nullByte => .error (.breakdown .nullByte)
    | .error (.system f) => .error (.failure (.unreadable command path f))
    | .ok bytes => .ok (World.textOf bytes)

def cat (s : Site) (args : List Text) (pipe : Option Text) : Except Fault (Option Text) :=
  if args.isEmpty then .ok pipe
  else (args.mapM (s.readFile "cat".toList)).map fun ts => some ts.flatten

/-- The directory that `cd` goes to. The path is brought into normal form first and looked up then.
-/
def cd (s : Site) (args : List Text) : Except Fault Text := do
  let target ← match args with
    | [] => (s.world.expandHome ['~']).mapError .breakdown
    | t :: _ => .ok t
  let path ← ((s.world.resolve s.cwd target).mapError .breakdown).map Path.normalize
  if !s.world.tree.pathExists path then throw (.failure (.noSuchDirectory target))
  if !s.world.tree.isDirectory path then throw (.failure (.notADirectory target))
  return path

def echo (args : List Text) : Text :=
  Text.joinWith [' '] args ++ ['\n']

def exit (args : List Text) : Fault :=
  match args with
  | [] => .exit 0
  | t :: _ =>
    match Text.readInteger? t with
    | some status => .exit status
    | none => .failure .numericArgument

def pwd (s : Site) : Text :=
  s.cwd ++ ['\n']

def searchFault : Grep.OptionFault → Fault
  | .contextLength v => .failure (.contextLength v)
  | .invalidOption c => .failure (.invalidOption c)
  | .missingPattern => .failure .missingPattern
  | .breakdown b => .breakdown b

def searchRequest (args : List Text) : Except Fault Grep.Request :=
  (Grep.parse args).mapError searchFault

def compilePattern (s : Site) (o : Grep.Options) (pattern : Text) : Except Fault Pattern.Search :=
  (Grep.compile s.world.charNames o pattern).mapError fun
    | .flaw f => .failure (.invalidPattern (o.patternText pattern) f)
    | .breakdown b => .breakdown b

/-- Marks a line with the path it comes from; a line that reads like a separator stays bare. -/
def labelled (path line : Text) : Text :=
  if line = Grep.separator then line else path ++ ':' :: line

def grepFile (s : Site) (hit : Text → Bool) (after : Nat) (several : Bool) (path : Text) :
    Except Fault (List Text) := do
  let text ← s.readFile "grep".toList path
  let lines := Grep.select hit after text.splitLines
  return if several then lines.map (labelled path) else lines

def asLines (lines : List Text) : Text :=
  lines.flatMap (· ++ ['\n'])

def grep (s : Site) (args : List Text) (pipe : Option Text) : Except Fault Text := do
  let r ← searchRequest args
  let pattern ← s.compilePattern r.options r.pattern
  match r.paths with
  | [] => return asLines (Grep.select pattern.finds r.options.after (pipe.getD []).splitLines)
  | paths =>
    let found ← paths.mapM (s.grepFile pattern.finds r.options.after (1 < paths.length))
    return asLines found.flatten

def wc (s : Site) (args : List Text) (pipe : Option Text) : Except Fault Text := do
  match args with
  | [] => return (Counts.ofText (pipe.getD [])).render ++ ['\n']
  | paths =>
    let counts ← paths.mapM fun p => (s.readFile "wc".toList p).map Counts.ofText
    let rows := (counts.zip paths).map fun (c, p) => c.render ++ ' ' :: p
    let sum := if 1 < paths.length then [(Counts.total counts).render ++ " total".toList] else []
    return Text.joinWith ['\n'] (rows ++ sum) ++ ['\n']

end Site

inductive Builtin where
  | cat
  | cd
  | echo
  | exit
  | grep
  | pwd
  | wc
  deriving DecidableEq, Repr

namespace Builtin

def name : Builtin → Text
  | .cat => ['c', 'a', 't']
  | .cd => ['c', 'd']
  | .echo => ['e', 'c', 'h', 'o']
  | .exit => ['e', 'x', 'i', 't']
  | .grep => ['g', 'r', 'e', 'p']
  | .pwd => ['p', 'w', 'd']
  | .wc => ['w', 'c']

def all : List Builtin :=
  [.cat, .cd, .echo, .exit, .grep, .pwd, .wc]

def ofName? (t : Text) : Option Builtin :=
  all.find? (·.name = t)

def run (s : Site) (args : List Text) (pipe : Option Text) : Builtin → Except Fault Outcome
  | .cat => (s.cat args pipe).map .value
  | .cd => (s.cd args).map .moved
  | .echo => .ok (.value (some (Site.echo args)))
  | .exit => .error (Site.exit args)
  | .grep => (s.grep args pipe).map fun t => .value (some t)
  | .pwd => .ok (.value (some s.pwd))
  | .wc => (s.wc args pipe).map fun t => .value (some t)

def warnings (w : World) (args : List Text) : Builtin → List Text
  | .grep =>
    match Grep.parse args with
    | .ok r => w.warnings (r.options.patternText r.pattern)
    | .error _ => []
  | _ => []

end Builtin

end LineShell
