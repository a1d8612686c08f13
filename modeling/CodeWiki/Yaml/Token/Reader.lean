import CodeWiki.Yaml.Property
import CodeWiki.Yaml.Scalar.Block
import CodeWiki.Yaml.Scalar.Flow

/-!
From text to tokens. That something is a key often shows only at the colon behind it. So the place
of whatever may be a key is kept in mind, and when the colon comes, the token that announces a key,
and if need be the token that opens a mapping, are put in at that place.
-/
namespace CodeWiki.Yaml

/-- The place of something that may turn out to be a key. -/
structure PossibleKey where
  /-- The number of tokens before it. -/
  position : Nat
  line : Nat
  column : Nat
  index : Nat
  /-- Whether it has to be a key, because it stands where the block's keys stand. -/
  required : Bool
deriving DecidableEq, Repr

namespace PossibleKey

def maxLength : Nat := 1024

/-- Whether the colon of a key may no longer come at or behind `p`. -/
def isLate (key : PossibleKey) (p : Placed) : Bool :=
  key.line < p.line || key.index + maxLength < p.index

end PossibleKey

structure Scan where
  /-- The tokens, the latest first. -/
  tokens : List Token := []
  /-- The columns of the open blocks, the innermost first. -/
  blocks : List Nat := []
  /-- The possible key at hand, and those around each open bracket, the innermost first. -/
  key : Option PossibleKey := none
  outerKeys : List (Option PossibleKey) := []
  /-- Whether a key may stand here. -/
  keyAllowed : Bool := true

namespace Scan

def inFlow (s : Scan) : Bool := !s.outerKeys.isEmpty

def push (s : Scan) (token : Token) : Scan := { s with tokens := token :: s.tokens }

/-- Puts a token behind the first `position` tokens. -/
def insertAt (s : Scan) (position : Nat) (token : Token) : Scan :=
  { s with tokens := s.tokens.insertIdx (s.tokens.length - position) token }

/-- Opens a block at a column, with its token behind the first `position` tokens, unless one is open
there already or the place is between brackets. -/
def openBlock (s : Scan) (column position : Nat) (token : Token) : Scan :=
  if s.inFlow || s.blocks.any (column ≤ ·) then s
  else { s.insertAt position token with blocks := column :: s.blocks }

def openBlockHere (s : Scan) (column : Nat) (token : Token) : Scan :=
  s.openBlock column s.tokens.length token

/-- Closes the blocks for which `isOver` holds, from the innermost on. -/
def closeBlocks (s : Scan) (isOver : Nat → Bool) : Scan :=
  if s.inFlow then s
  else { s with
    tokens := List.replicate (s.blocks.takeWhile isOver).length .blockEnd ++ s.tokens
    blocks := s.blocks.dropWhile isOver }

/-- A possible key that can be given up; one that is required cannot. -/
def giveUp? (key : Option PossibleKey) : Option (Option PossibleKey) :=
  match key with
  | some key => if key.required then none else some none
  | none => some none

def dropKey? (s : Scan) : Option Scan := (giveUp? s.key).map fun key => { s with key }

/-- A possible key if its colon may still come at `p`. -/
def inTime? (p : Placed) (key : Option PossibleKey) : Option (Option PossibleKey) :=
  if (key.map (·.isLate p)).getD false then giveUp? key else some key

/-- Gives up all possible keys that are too far from `p`. -/
def dropLate? (s : Scan) (p : Placed) : Option Scan := do
  some { s with key := ← inTime? p s.key, outerKeys := ← s.outerKeys.mapM (inTime? p) }

/-- Keeps the place `p` in mind as that of a possible key. -/
def noteKey? (s : Scan) (p : Placed) : Option Scan :=
  if s.keyAllowed then do
    let s ← s.dropKey?
    some { s with key := some {
      position := s.tokens.length
      line := p.line
      column := p.column
      index := p.index
      required := !s.inFlow && s.blocks.head? = some p.column } }
  else some s

/-- Adds a token that may begin a key; no other key may begin right behind it. -/
def pushKeyed? (s : Scan) (p : Placed) (token : Token) : Option Scan := do
  let s ← s.noteKey? p
  some { s.push token with keyAllowed := false }

/-- Skips white space and comments. A new line outside brackets may begin with a key; tabs are no
white space where one may. The first flag tells whether a key may stand here, the second whether the
place is in a comment. -/
def skipGap (inFlow : Bool) : Bool → Bool → Source → Bool × Source
  | keyAllowed, _, [] => (keyAllowed, [])
  | keyAllowed, inComment, p :: rest =>
    if p.isBreak then skipGap inFlow (keyAllowed || !inFlow) false rest
    else if inComment then skipGap inFlow keyAllowed true rest
    else if p.char = '#' then skipGap inFlow keyAllowed true rest
    else if p.char = ' ' || (p.char = '\t' && (inFlow || !keyAllowed)) ||
        (p.char = '\ufeff' && p.column = 0) then
      skipGap inFlow keyAllowed false rest
    else (keyAllowed, p :: rest)

/-- Ends everything that is open outside brackets, in front of a directive or a document marker. -/
def endContent? (s : Scan) : Option Scan := do
  let s ← (s.closeBlocks fun _ => true).dropKey?
  some { s with keyAllowed := false }

def openFlow? (s : Scan) (p : Placed) (token : Token) : Option Scan := do
  let s ← s.noteKey? p
  some { s.push token with outerKeys := s.key :: s.outerKeys, key := none, keyAllowed := true }

def closeFlow? (s : Scan) (token : Token) : Option Scan := do
  let s ← s.dropKey?
  match s.outerKeys with
  | key :: outerKeys => some { s.push token with key, outerKeys, keyAllowed := false }
  | [] => some { s.push token with keyAllowed := false }

def comma? (s : Scan) : Option Scan := do
  let s ← s.dropKey?
  some { s.push .flowEntry with keyAllowed := true }

def dash? (s : Scan) (p : Placed) : Option Scan := do
  if !s.inFlow && !s.keyAllowed then none
  else
    let s ← (s.openBlockHere p.column .blockSequence).dropKey?
    some { s.push .blockEntry with keyAllowed := true }

def questionMark? (s : Scan) (p : Placed) : Option Scan := do
  if !s.inFlow && !s.keyAllowed then none
  else
    let s ← (s.openBlockHere p.column .blockMapping).dropKey?
    some { s.push .key with keyAllowed := !s.inFlow }

/-- The colon in front of a value: behind a possible key, or else behind an explicit one. -/
def colon? (s : Scan) (p : Placed) : Option Scan :=
  match s.key with
  | some key =>
    let s := (s.insertAt key.position .key).openBlock key.column key.position .blockMapping
    some { s.push .value with key := none, keyAllowed := false }
  | none =>
    if !s.inFlow && !s.keyAllowed then none
    else
      let s := s.openBlockHere p.column .blockMapping
      some { s.push .value with keyAllowed := !s.inFlow }

/-- A plain scalar. If its last line has ended, a key may follow. -/
def plain? (s : Scan) (p : Placed) (source : Source) : Option (Scan × Source) := do
  let minColumn := (s.blocks.head?.map (· + 1)).getD 0
  let (content, gap, rest) ← Plain.readFrom s.inFlow minColumn {} source
  let s ← s.pushKeyed? p (.scalar content .plain)
  some ({ s with keyAllowed := gap.folded }, rest)

/-- Whether a plain scalar may begin with the character `p`. -/
def startsPlain (s : Scan) (p : Placed) (rest : Source) : Bool :=
  if p.char = '-' then (rest.head?.map (!·.isBlank)).getD true
  else if p.char = '?' || p.char = ':' then !s.inFlow && !rest.startsGap
  else !p.isGap && !",[]\x7b\x7d#&*!|>'\"%@`".toList.contains p.char

/-- The token that begins with the character `p`, and what follows. -/
def token? (s : Scan) (p : Placed) (rest : Source) : Option (Scan × Source) :=
  let single (s : Option Scan) : Option (Scan × Source) := s.map (·, rest)
  let c := p.char
  if p.column = 0 && c = '%' then do
    let (line, rest) := rest.splitLine
    let s ← s.endContent?
    some (s.push (← Directive.ofLine? line.text), rest)
  else if Source.startsMarker '-' (p :: rest) then do
    some ((← s.endContent?).push .documentStart, rest.drop 2)
  else if Source.startsMarker '.' (p :: rest) then do
    some ((← s.endContent?).push .documentEnd, rest.drop 2)
  else if c = '[' then single (s.openFlow? p (.flowSequence .opening))
  else if c = '\x7b' then single (s.openFlow? p (.flowMapping .opening))
  else if c = ']' then single (s.closeFlow? (.flowSequence .closing))
  else if c = '\x7d' then single (s.closeFlow? (.flowMapping .closing))
  else if c = ',' then single s.comma?
  else if c = '-' && rest.startsGap then single (s.dash? p)
  else if c = '?' && (s.inFlow || rest.startsGap) then single (s.questionMark? p)
  else if c = ':' && (s.inFlow || rest.startsGap) then single (s.colon? p)
  else if c = '*' then do
    let (name, rest) ← Anchor.readName? rest
    some (← s.pushKeyed? p (.aliasName name), rest)
  else if c = '&' then do
    let (name, rest) ← Anchor.readName? rest
    some (← s.pushKeyed? p (.anchor name), rest)
  else if c = '!' then do
    let (tag, rest) ← Tag.read? s.inFlow rest
    some (← s.pushKeyed? p tag, rest)
  else if (c = '|' || c = '>') && !s.inFlow then do
    let (content, rest) ← Block.read? (c = '|') s.blocks.head? rest
    let s ← s.dropKey?
    some ({ s.push (.scalar content (if c = '|' then .literal else .folded)) with
      keyAllowed := true }, rest)
  else if c = '\'' || c = '"' then do
    let (content, rest) ← Quoted.readFrom c 0 {} rest
    let s ← s.pushKeyed? p (.scalar content (if c = '"' then .doubleQuoted else .singleQuoted))
    some (s, rest)
  else if s.startsPlain p rest then s.plain? p (p :: rest)
  else none

/-- The tokens when the source has ended: no key may be left that is required. -/
def finish? (s : Scan) : Option (List Token) := do
  let s ← (s.closeBlocks fun _ => true).dropKey?
  let _ ← s.outerKeys.mapM giveUp?
  some s.tokens.reverse

/-- Reads tokens one after another. Each of them takes at least one character, for which a unit of
fuel pays. -/
def run? : Nat → Scan → Source → Option (List Token)
  | 0, _, _ => none
  | fuel + 1, s, source => do
    let (keyAllowed, source) := skipGap s.inFlow s.keyAllowed false source
    match source with
    | [] => s.finish?
    | p :: rest =>
      let s ← { s with keyAllowed }.dropLate? p
      let (s, rest) ← (s.closeBlocks (p.column < ·)).token? p rest
      run? fuel s rest

end Scan

namespace Token

def ofText? (t : Text) : Option (List Token) := do
  let source ← Source.ofText? t
  Scan.run? (source.length + 1) {} source

end Token
end CodeWiki.Yaml
