import CodeWiki.Text.Basic

/-!
The tokens of YAML. Blocks are opened and closed by tokens of their own, so that indentation plays
no role behind this point.
-/
namespace CodeWiki.Yaml

inductive ScalarStyle where
  | plain
  | singleQuoted
  | doubleQuoted
  | literal
  | folded
deriving DecidableEq, Repr

/-- A bracket of a collection: its opening or its closing one. -/
inductive Bracket where
  | opening
  | closing
deriving DecidableEq, Repr

inductive Token where
  /-- The directive that gives the version. -/
  | version (major minor : Nat)
  | tagDirective (handle meaning : Text)
  | documentStart
  | documentEnd
  | blockSequence
  | blockMapping
  | blockEnd
  | flowSequence (bracket : Bracket)
  | flowMapping (bracket : Bracket)
  | blockEntry
  | flowEntry
  | key
  | value
  | aliasName (name : Text)
  | anchor (name : Text)
  /-- A tag; the handle is empty for a tag that is given in full. -/
  | tag (handle suffix : Text)
  | scalar (content : Text) (style : ScalarStyle)
deriving DecidableEq, Repr

end CodeWiki.Yaml
