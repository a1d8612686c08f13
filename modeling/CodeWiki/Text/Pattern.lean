import CodeWiki.Text.Basic

/-!
Patterns for whole texts. A pattern is matched by following the set of patterns that the rest of the
text may still have to match; the set never outgrows the pattern, so the time is linear in the text.
-/
namespace CodeWiki

open Unicode

/-- A set of characters: word characters, white space and single characters, or all others. -/
structure CharSet where
  word : Bool := false
  space : Bool := false
  chars : List Char := []
  inverted : Bool := false
deriving DecidableEq, Repr

namespace CharSet

def has (s : CharSet) (c : Char) : Bool :=
  ((s.word && isWord c) || (s.space && isWhiteSpace c) || s.chars.contains c) != s.inverted

def all : CharSet where inverted := true

end CharSet

inductive Pattern where
  | empty
  | one (set : CharSet)
  | seq (first second : Pattern)
  | alt (left right : Pattern)
  | many (body : Pattern)
deriving DecidableEq, Repr

namespace Pattern

def text : Text → Pattern
  | [] => empty
  | c :: t => seq (one { chars := [c] }) (text t)

def all : List Pattern → Pattern
  | [] => empty
  | [p] => p
  | p :: ps => seq p (all ps)

/-- One of the texts, of which there is at least one. -/
def oneOf : Text → List Text → Pattern
  | t, [] => text t
  | t, u :: ts => alt (text t) (oneOf u ts)

def optional (p : Pattern) : Pattern := alt p empty

def some (p : Pattern) : Pattern := seq p (many p)

def anything : Pattern := many (one CharSet.all)

def matchesEmpty : Pattern → Bool
  | empty => true
  | one _ => false
  | seq p q => p.matchesEmpty && q.matchesEmpty
  | alt p q => p.matchesEmpty || q.matchesEmpty
  | many _ => true

/-- Puts `q` behind `p`, without a trace of an empty `p`. -/
def follow (p q : Pattern) : Pattern :=
  match p with
  | empty => q
  | _ => seq p q

/-- The patterns for what may follow `c` in a match. -/
def after (c : Char) : Pattern → List Pattern
  | empty => []
  | one set => if set.has c then [empty] else []
  | seq p q =>
    let ahead := (after c p).map (follow · q)
    if p.matchesEmpty then ahead ++ after c q else ahead
  | alt p q => after c p ++ after c q
  | many p => (after c p).map (follow · (many p))

def anyAccepts (ps : List Pattern) : Text → Bool
  | [] => ps.any matchesEmpty
  | c :: t => anyAccepts (ps.flatMap (after c)).eraseDups t

def accepts (p : Pattern) (t : Text) : Bool := anyAccepts [p] t

end Pattern
end CodeWiki
