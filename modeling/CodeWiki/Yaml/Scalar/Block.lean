import CodeWiki.Yaml.Source

/-!
Block scalars: indented lines behind `|`, which keeps line breaks, or `>`, which folds them. The
header may say how deep the lines are indented and what becomes of the breaks at the end.
-/
namespace CodeWiki.Yaml.Block

/-- What becomes of the breaks at the end: all go, one stays, or all stay. -/
inductive Chomping where
  | strip
  | clip
  | keep
deriving DecidableEq, Repr

structure Header where
  chomping : Chomping := .clip
  /-- The indentation relative to the enclosing block, if it is given. -/
  depth : Option Nat := none
deriving DecidableEq, Repr

/-- The chomping that an indicator stands for. -/
def chomping? (c : Char) : Option Chomping :=
  if c = '+' then some .keep else if c = '-' then some .strip else none

/-- The depth that a digit stands for; a zero is an error. -/
def depth? (c : Char) : Option (Option Nat) :=
  if c = '0' then none else some (some (c.toNat - '0'.toNat))

/-- The header at hand with both indicators in either order, and what follows. -/
def readHeader? : Source → Option (Header × Source)
  | [] => some ({}, [])
  | p :: rest =>
    match chomping? p.char with
    | some chomping =>
      match rest with
      | q :: more =>
        if q.char.isDigit then do some ({ chomping, depth := ← depth? q.char }, more)
        else some ({ chomping }, rest)
      | [] => some ({ chomping }, [])
    | none =>
      if p.char.isDigit then do
        let depth ← depth? p.char
        match rest with
        | q :: more =>
          match chomping? q.char with
          | some chomping => some ({ chomping, depth }, more)
          | none => some ({ depth }, rest)
        | [] => some ({ depth }, [])
      else some ({}, p :: rest)

/-- What follows the line of the header, on which only a comment may stand. -/
def endHeader? (s : Source) : Option Source :=
  let (line, rest) := s.splitLine
  match line.dropWhile Placed.isBlank with
  | [] => some rest
  | p :: _ => if p.char = '#' then some rest else none

/-- The breaks in front of the first line, the greatest indentation met there, and what follows. No
tab may stand where indentation is looked for. -/
def leadingBreaks (deepest : Nat) : Source → Option (Text × Nat × Source)
  | [] => some ([], deepest, [])
  | p :: rest =>
    if p.char = ' ' then leadingBreaks (max deepest (p.column + 1)) rest
    else if p.char = '\t' then none
    else if p.isBreak then
      (leadingBreaks deepest rest).map fun (breaks, deepest, s) => (p.char :: breaks, deepest, s)
    else some ([], deepest, p :: rest)

structure Seam where
  /-- The break that ended the last line, if there has been one. -/
  first : Text := []
  /-- The breaks of empty lines. -/
  more : Text := []
  /-- Whether the last line began with a blank. -/
  blank : Bool := false
deriving DecidableEq, Repr

/-- What remains of a seam in front of a line. Lines that begin with a blank are never folded. -/
def Seam.text (seam : Seam) (literal lineBlank : Bool) : Text :=
  if !literal && seam.first = ['\n'] && !seam.blank && !lineBlank then
    (if seam.more.isEmpty then [' '] else seam.more)
  else seam.first ++ seam.more

/-- The lines at the given indentation, the seam behind them, and what follows. The flag tells
whether the source is inside a line. -/
def linesFrom (literal : Bool) (indent : Nat) : Bool → Seam → Source → Option (Text × Seam × Source)
  | _, seam, [] => some ([], seam, [])
  | true, seam, p :: rest =>
    if p.isBreak then linesFrom literal indent false { seam with first := [p.char] } rest
    else (linesFrom literal indent true seam rest).map fun (t, seam, s) => (p.char :: t, seam, s)
  | false, seam, p :: rest =>
    if p.isBreak then
      linesFrom literal indent false { seam with more := seam.more ++ [p.char] } rest
    else if p.column < indent && p.char = ' ' then linesFrom literal indent false seam rest
    else if p.column < indent && p.char = '\t' then none
    else if p.column = indent then
      (linesFrom literal indent true { blank := p.isBlank } rest).map fun (t, last, s) =>
        (seam.text literal p.isBlank ++ p.char :: t, last, s)
    else some ([], seam, p :: rest)

/-- A scalar with the breaks at its end as the header says. -/
def chomp (chomping : Chomping) (t : Text) (seam : Seam) : Text :=
  match chomping with
  | .strip => t
  | .clip => t ++ seam.first
  | .keep => t ++ seam.first ++ seam.more

/-- The block scalar behind its indicator, in a block whose entries stand at `parent`, and what
follows. Without a depth in the header, the first line that is not empty sets the indentation. -/
def read? (literal : Bool) (parent : Option Nat) (s : Source) : Option (Text × Source) := do
  let (header, s) ← readHeader? s
  let s ← endHeader? s
  let outer := (parent.map (· + 1)).getD 0
  match header.depth with
  | some depth =>
    let (t, seam, s) ← linesFrom literal (parent.getD 0 + depth) false {} s
    some (chomp header.chomping t seam, s)
  | none =>
    let (breaks, deepest, s) ← leadingBreaks 0 s
    let indent := max deepest (max outer 1)
    let (t, seam, s) ← linesFrom literal indent false { more := breaks } s
    some (chomp header.chomping t seam, s)

end CodeWiki.Yaml.Block
