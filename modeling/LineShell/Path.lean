import LineShell.Text.Basic

namespace LineShell.Path

def isAbsolute (path : Text) : Bool :=
  path.head? == some '/'

def join (base path : Text) : Text :=
  if isAbsolute path then path
  else match base.getLast? with
    | none => path
    | some c => if c = '/' then base ++ path else base ++ '/' :: path

def pieces (path : Text) : List Text :=
  path.cutAt '/'

/-- Two leading slashes are kept; one, three or more are one. -/
def root (path : Text) : Text :=
  match (path.takeWhile (· = '/')).length with
  | 0 => []
  | 2 => ['/', '/']
  | _ => ['/']

def place (rooted : Bool) (names : List Text) (piece : Text) : List Text :=
  if piece = [] || piece = ['.'] then names
  else if piece = ['.', '.'] then
    match names with
    | [] => if rooted then [] else [piece]
    | n :: ns => if n = ['.', '.'] then piece :: n :: ns else ns
  else piece :: names

def normalize (path : Text) : Text :=
  let lead := root path
  let names := (pieces path).foldl (place (!lead.isEmpty)) []
  match lead ++ Text.joinWith ['/'] names.reverse with
  | [] => ['.']
  | p => p

def absolute (cwd path : Text) : Text :=
  normalize (join cwd path)

end LineShell.Path
