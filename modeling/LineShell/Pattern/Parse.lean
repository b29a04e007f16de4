import LineShell.Pattern.Escape
import LineShell.Text.Identifier

/-! Reading a pattern. A pattern is a choice of sequences, a sequence a list of items; an item may
be repeated. Groups without a number and without modes leave no trace but are one item to a
repetition. Items that all alternatives start with are taken out in front of the choice, and a
choice of single characters is a character set. -/

namespace LineShell.Pattern

inductive Item where
  | node (n : Node)
  | spliced (ns : List Node)

namespace Item

def nodes : Item → List Node
  | .node n => [n]
  | .spliced ns => ns

end Item

def repetitionLimit : Nat := 4294967295

def groupLimit : Nat := 1073741823

def isLayout (c : Char) : Bool :=
  c == ' ' || 0x09 ≤ c.toNat && c.toNat ≤ 0x0D

def isOperator (c : Char) : Bool :=
  ".\\[\x7b()*+?^$|".toList.contains c

namespace Mode

def ofFlags (fs : List Flag) : Mode where
  ignoreCase := fs.contains .ignoreCase
  ascii := fs.contains .ascii
  multiline := fs.contains .multiline
  dotAll := fs.contains .dotAll

def adjust (m : Mode) (on off : List Flag) : Mode where
  ignoreCase := (m.ignoreCase || on.contains .ignoreCase) && !off.contains .ignoreCase
  ascii := if on.any Flag.isAlphabet then on.contains .ascii else m.ascii
  multiline := (m.multiline || on.contains .multiline) && !off.contains .multiline
  dotAll := (m.dotAll || on.contains .dotAll) && !off.contains .dotAll

end Mode

namespace Node

def sameUnit : Node → Node → Bool
  | .char m t, .char m' t' => m == m' && t == t'
  | .anchor m a, .anchor m' a' => m == m' && a == a'
  | .backref m g _, .backref m' g' _ => m == m' && g == g'
  | _, _ => false

def commonLead : (first : List Node) → (others : List (List Node)) →
    List Node × List (List Node)
  | [], others => ([], [] :: others)
  | n :: ns, others =>
    if others.all fun o => o.head?.any (sameUnit n) then
      let r := commonLead ns (others.map List.tail)
      (n :: r.1, r.2)
    else ([], (n :: ns) :: others)

def setMembers? : List Node → Option (Mode × List Member)
  | [.char m (.code k false)] => some (m, [.code k])
  | [.char m (.set false ms)] => some (m, ms)
  | _ => none

def dedup (ms : List Member) : List Member :=
  ms.foldl (fun seen m => if seen.contains m then seen else seen ++ [m]) []

def choice : List (List Node) → List Node
  | [] => []
  | [a] => a
  | a :: as =>
    let r := commonLead a as
    match r.2.mapM setMembers? with
    | some ((m, ms) :: more) => r.1 ++ [.char m (.set false (dedup (ms ++ more.flatMap (·.2))))]
    | _ => r.1 ++ [ofAlternatives (r.2.map ofList)]

end Node

namespace Reading

def setMember (t : Token) : Reading Member :=
  match t with
  | .char c => return .code c.toNat
  | .escape c => setEscape c
  | .dangling => fail .danglingEscape 0

def setMembers (start : Nat) : (fuel : Nat) → List Member → Reading (List Member)
  | 0, _ => failAt .unterminatedSet start
  | fuel + 1, members => do
    match ← next with
    | none => failAt .unterminatedSet start
    | some t =>
      if t = .char ']' && !members.isEmpty then return members
      let first ← setMember t
      if ← accept '-' then
        match ← next with
        | none => failAt .unterminatedSet start
        | some u =>
          if u = .char ']' then return members ++ [first, .code 0x2D]
          let last ← setMember u
          let offset := t.text.length + 1 + u.text.length
          match first, last with
          | .code a, .code b =>
            if b < a then fail (.badRange t.text u.text) offset
            setMembers start fuel (members ++ [.range a b])
          | _, _ => fail (.badRange t.text u.text) offset
      else setMembers start fuel (members ++ [first])

def charSet (mode : Mode) : Reading Node := do
  let start := (← tell) - 1
  let negated ← accept '^'
  let members ← setMembers start ((← get).tokens.length + 1) []
  match Node.dedup members with
  | [.code k] => return .char mode (.code k negated)
  | ms => return .char mode (.set negated ms)

def count? (digits : Text) : Reading (Option Nat) := do
  if digits.isEmpty then return none
  if digits.length > Text.digitLimit then throw (.breakdown (.digitLimit digits.length))
  let n := Text.asciiValue digits
  if repetitionLimit ≤ n then throw (.breakdown .repetitionLimit)
  return some n

def bounds? : Reading (Option (Nat × Option Nat)) := do
  let here ← get
  if here.tokens.head? = some (.char '\x7d') then return none
  let low ← takeAll Char.isDigit
  let high ← if ← accept ',' then takeAll Char.isDigit else pure low
  if ← accept '\x7d' then
    let least := (← count? low).getD 0
    let most ← count? high
    if most.any (· < least) then failAt .repeatOrder here.pos
    return some (least, most)
  else
    set here
    return none

def quantifier? (c : Char) : Reading (Option (Nat × Option Nat)) :=
  match c with
  | '?' => return some (0, some 1)
  | '*' => return some (0, none)
  | '+' => return some (1, none)
  | _ => bounds?

def greed : Reading Greed := do
  if ← accept '?' then return .lazy
  else if ← accept '+' then return .possessive
  else return .greedy

def repeatLast (items : List Item) (least : Nat) (most : Option Nat) (pos : Nat) :
    Reading (List Item) := do
  let body ← match items.getLast? with
    | none | some (.node (.anchor ..)) => failAt .nothingToRepeat pos
    | some (.node (.rep ..)) => failAt .multipleRepeat pos
    | some i => pure (Node.ofList i.nodes)
  return items.dropLast ++ [.node (.rep (← greed) least most body)]

def flagOf? : Token → Option Flag
  | .char c => Flag.ofChar? c
  | _ => none

def noFlag {α : Type} (t : Token) (missing : Cause) : Reading α :=
  fail (if t.isIn Text.isLetter then .unknownFlag else missing) t.text.length

def flagsOn : (fuel : Nat) → Flag → List Flag → Reading (List Flag × Char)
  | 0, _, _ => fail .missingFlagEnd 0
  | fuel + 1, f, on => do
    if f = .locale then fail .localeFlag 0
    if f.isAlphabet && on.any (fun g => g.isAlphabet && g != f) then fail .alphabetFlags 0
    let on := on ++ [f]
    match ← next with
    | none => fail .missingFlagEnd 0
    | some t =>
      match t, flagOf? t with
      | .char ')', _ => return (on, ')')
      | .char '-', _ => return (on, '-')
      | .char ':', _ => return (on, ':')
      | _, some g => flagsOn fuel g on
      | _, none => noFlag t .missingFlagEnd

def flagsOff : (fuel : Nat) → Flag → List Flag → Reading (List Flag)
  | 0, _, _ => fail .missingColon 0
  | fuel + 1, f, off => do
    if f.isAlphabet then fail .alphabetFlagsOff 0
    let off := off ++ [f]
    match ← next with
    | none => fail .missingColon 0
    | some t =>
      match t, flagOf? t with
      | .char ':', _ => return off
      | _, some g => flagsOff fuel g off
      | _, none => noFlag t .missingColon

def leadingFlags (fuel : Nat) (t : Token) : Reading (List Flag × Char) :=
  match flagOf? t with
  | some f => flagsOn fuel f []
  | none => return ([], '-')

def trailingFlags (fuel : Nat) (c : Char) : Reading (List Flag) := do
  if c = ':' then return []
  match ← next with
  | none => fail .missingFlag 0
  | some u =>
    match flagOf? u with
    | some f => flagsOff fuel f []
    | none => noFlag u .missingFlag

def inlineFlags (t : Token) : Reading (Option (List Flag × List Flag)) := do
  let fuel := (← get).tokens.length + 1
  let (on, c) ← leadingFlags fuel t
  if c = ')' then
    modify fun r => { r with flags := r.flags ++ on }
    return none
  if on.contains .template then fail .globalFlagOn 1
  let off ← trailingFlags fuel c
  if off.contains .template then fail .globalFlagOff 1
  if on.any off.contains then fail .flagOnAndOff 1
  return some (on, off)

def openGroup (name : Option Text) (pos : Nat) : Reading Nat := do
  let group := (← groupCount) + 1
  modify fun r => { r with groups := r.groups ++ [none] }
  match name with
  | none => pure ()
  | some n =>
    match (← get).names.lookup n with
    | some previous => failAt (.repeatedName n group previous) pos
    | none => modify fun r => { r with names := (n, group) :: r.names }
  return group

def closeGroup (group : Nat) (width : Width) : Reading Unit :=
  modify fun r => { r with groups := r.groups.set (group - 1) (some width) }

def namedReference (mode : Mode) : Reading Node := do
  let name ← takeUntil ')' .group
  let pos := (← tell) - (name.length + 1)
  unless Text.isIdentifier name do failAt (.badGroupName name) pos
  match (← get).names.lookup name with
  | none => failAt (.unknownGroup name) pos
  | some g => reference mode g pos

def conditionGroup : Reading Nat := do
  let name ← takeUntil ')' .group
  let pos := (← tell) - (name.length + 1)
  let group ←
    if Text.isIdentifier name then
      match (← get).names.lookup name with
      | none => failAt (.unknownGroup name) pos
      | some g => pure g
    else match Text.readInteger? name with
      | some (.ofNat 0) => failAt .groupNumber pos
      | some (.ofNat g) =>
        if groupLimit ≤ g then failAt (.noSuchGroup g) pos
        modify fun r =>
          if (r.conditions.lookup g).isSome then r
          else { r with conditions := r.conditions ++ [(g, pos)] }
        pure g
      | _ => failAt (.badGroupName name) pos
  checkLookbehind group
  return group

def closing (start : Nat) : Reading Unit := do
  unless ← accept ')' do failAt .unterminatedGroup start

inductive Opening where
  | group (name : Option Text) (pos : Nat)
  | unnumbered (atomic : Bool)
  | moded (on off : List Flag)
  | look (behind negated : Bool)
  | condition
  | done (n : Option Node)
  | flags

def extension (mode : Mode) (start : Nat) : Reading Opening := do
  match ← next with
  | none => fail .unexpectedEnd 0
  | some (.char 'P') =>
    if ← accept '<' then
      let name ← takeUntil '>' .group
      let pos := (← tell) - (name.length + 1)
      unless Text.isIdentifier name do failAt (.badGroupName name) pos
      return .group (some name) pos
    else if ← accept '=' then return .done (some (← namedReference mode))
    else match ← next with
      | none => fail .unexpectedEnd 0
      | some t => fail (.unknownExtension ('P' :: t.text)) (t.text.length + 2)
  | some (.char ':') => return .unnumbered false
  | some (.char '>') => return .unnumbered true
  | some (.char '#') =>
    if ← skipUntil ')' ((← get).tokens.length + 1) then return .done none
    else failAt .unterminatedComment start
  | some (.char '=') => return .look false false
  | some (.char '!') => return .look false true
  | some (.char '<') =>
    match ← next with
    | none => fail .unexpectedEnd 0
    | some (.char '=') => return .look true false
    | some (.char '!') => return .look true true
    | some t => fail (.unknownExtension ('<' :: t.text)) (t.text.length + 2)
  | some (.char '(') => return .condition
  | some t =>
    if t = .char '-' || (flagOf? t).isSome then
      match ← inlineFlags t with
      | none => return .flags
      | some (on, off) => return .moded on off
    else fail (.unknownExtension t.text) (t.text.length + 1)

def alternativesFrom (sequence : Mode → Bool → Bool → Reading (List Node)) (whole : Bool) :
    (fuel : Nat) → Mode → Bool → List (List Node) → Reading (List Node)
  | 0, _, _, read => return Node.choice read
  | fuel + 1, mode, verbose, read => do
    let read := read ++ [← sequence mode verbose (whole && read.isEmpty)]
    if ← accept '|' then
      if whole then
        let flags := (← get).flags
        alternativesFrom sequence whole fuel (.ofFlags flags) (flags.contains .verbose) read
      else alternativesFrom sequence whole fuel mode verbose read
    else return Node.choice read

def alternatives (sequence : Mode → Bool → Bool → Reading (List Node)) (whole : Bool) (mode : Mode)
    (verbose : Bool) : Reading (List Node) := do
  alternativesFrom sequence whole ((← get).tokens.length + 1) mode verbose []

/-- Reads a group whose opening parenthesis, at `start`, was read. The result is what it adds to the
sequence, or that it set flags for the whole pattern. -/
def group (sequence : Mode → Bool → Bool → Reading (List Node)) (mode : Mode) (verbose : Bool)
    (start : Nat) : Reading (Option (List Item)) := do
  let opening ← if ← accept '?' then extension mode start else pure (.group none 0)
  match opening with
  | .flags => return none
  | .done none => return some []
  | .done (some n) => return some [.node n]
  | .group name pos =>
    let g ← openGroup name pos
    let body := Node.ofList (← alternatives sequence false mode verbose)
    closing start
    closeGroup g body.width
    return some [.node (.capture g body)]
  | .unnumbered atomic =>
    let body ← alternatives sequence false mode verbose
    closing start
    return some [if atomic then .node (.atomic (.ofList body)) else .spliced body]
  | .moded on off =>
    let verbose := (verbose || on.contains .verbose) && !off.contains .verbose
    let body ← alternatives sequence false (mode.adjust on off) verbose
    closing start
    return some [.node (.scoped (.ofList body))]
  | .look behind negated =>
    let outer := (← get).lookbehind
    if behind && outer.isNone then
      modify fun r => { r with lookbehind := some (r.groups.length + 1) }
    let body ← alternatives sequence false mode verbose
    if behind then modify fun r => { r with lookbehind := outer }
    closing start
    return some [.node (.look behind negated (.ofList body))]
  | .condition =>
    let g ← conditionGroup
    let yes ← sequence mode verbose false
    let no ← if ← accept '|' then sequence mode verbose false else pure []
    if (← peek) = some (.char '|') then fail .tooManyBranches 0
    closing start
    return some [.node (.choose g (.ofList yes) (.ofList no))]

/-- Reads a sequence up to the end of the pattern, a bar or a closing parenthesis. `first` says that
it may start with flags for the whole pattern. -/
def sequence : (fuel : Nat) → List Item → Mode → (verbose first : Bool) → Reading (List Node)
  | 0, items, _, _, _ => return items.flatMap Item.nodes
  | fuel + 1, items, mode, verbose, first => do
    match ← peek with
    | none | some (.char '|') | some (.char ')') => return items.flatMap Item.nodes
    | some t =>
      advance
      match t with
      | .dangling => fail .danglingEscape 0
      | .escape c =>
        let n ← nodeEscape mode c
        sequence fuel (items ++ [.node n]) mode verbose first
      | .char c =>
        if verbose && isLayout c then sequence fuel items mode verbose first
        else if verbose && c = '#' then
          let _ ← skipUntil '\n' ((← get).tokens.length + 1)
          sequence fuel items mode verbose first
        else if !isOperator c then
          sequence fuel (items ++ [.node (.char mode (.code c.toNat false))]) mode verbose first
        else if c = '[' then
          let n ← charSet mode
          sequence fuel (items ++ [.node n]) mode verbose first
        else if c = '.' then
          sequence fuel (items ++ [.node (.char mode .any)]) mode verbose first
        else if c = '^' then
          sequence fuel (items ++ [.node (.anchor mode .start)]) mode verbose first
        else if c = '$' then
          sequence fuel (items ++ [.node (.anchor mode .stop)]) mode verbose first
        else if c = '(' then
          let start := (← tell) - 1
          match ← group (sequence fuel []) mode verbose start with
          | some new => sequence fuel (items ++ new) mode verbose first
          | none =>
            if !first || !items.isEmpty then failAt .lateFlags start
            let flags := (← get).flags
            sequence fuel items (.ofFlags flags) (flags.contains .verbose) first
        else
          let pos := (← tell) - 1
          match ← quantifier? c with
          | none =>
            sequence fuel (items ++ [.node (.char mode (.code c.toNat false))]) mode verbose first
          | some (least, most) =>
            let items ← repeatLast items least most pos
            sequence fuel items mode verbose first

def pattern : Reading Node := do
  checkNext
  let r ← get
  let body ← alternatives (sequence (r.tokens.length + 1) []) true (.ofFlags r.flags)
    (r.flags.contains .verbose)
  let r ← get
  if r.flags.contains .ascii && r.flags.contains .unicode then throw (.breakdown .alphabetConflict)
  unless r.tokens.isEmpty do fail .unbalanced 0
  match r.conditions.find? fun c => r.groups.length < c.1 with
  | some (g, pos) => failAt (.noSuchGroup g) pos
  | none => return .ofList body

end Reading

end LineShell.Pattern
