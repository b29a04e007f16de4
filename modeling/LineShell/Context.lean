import LineShell.Path

namespace LineShell

structure Variables where
  entries : List (Text × Text) := []
  deriving DecidableEq, Repr

namespace Variables

def get? (vs : Variables) (name : Text) : Option Text :=
  vs.entries.lookup name

def setIn (name value : Text) : List (Text × Text) → List (Text × Text)
  | [] => [(name, value)]
  | (n, v) :: rest => if n = name then (n, value) :: rest else (n, v) :: setIn name value rest

def set (vs : Variables) (name value : Text) : Variables :=
  ⟨setIn name value vs.entries⟩

def sorted (vs : Variables) : List (Text × Text) :=
  vs.entries.mergeSort fun a b => !b.1.lex a.1 fun c d => c.toNat < d.toNat

end Variables

structure Context where
  cwd : Text
  vars : Variables := {}
  deriving DecidableEq, Repr

namespace Context

def start (processCwd : Text) (cwd : Option Text) : Context :=
  { cwd := match cwd with
      | none => processCwd
      | some dir => Path.absolute processCwd dir }

def get? (c : Context) (name : Text) : Option Text :=
  c.vars.get? name

def set (c : Context) (name value : Text) : Context :=
  { c with vars := c.vars.set name value }

end Context

end LineShell
