import CodeWiki.Text.Basic

/-!
Families of programming languages. The family decides which lines count as declarations and which
marks open a comment.
-/
namespace CodeWiki

inductive Language where
  | python
  | javaScript
  | go
  | jvmLike
  | cFamily
  | other
deriving DecidableEq, Repr

namespace Language

/-- The family of a file-name extension in lower case. -/
def ofExtension (extension : Text) : Language :=
  if extension = "py".toList then .python
  else if ["js", "jsx", "ts", "tsx"].any (·.toList = extension) then .javaScript
  else if extension = "go".toList then .go
  else if ["java", "cs"].any (·.toList = extension) then .jvmLike
  else if ["c", "cpp", "cc", "h", "hpp"].any (·.toList = extension) then .cFamily
  else .other

/-- The family of a file by its path: whatever stands behind the last dot of the path, ASCII letters
in either case. -/
def ofPath (path : Text) : Language :=
  ofExtension (((Text.afterLast? '.' path).getD []).map Char.toLower)

def hasHashComments : Language → Bool
  | python | other => true
  | _ => false

def hasSlashComments (language : Language) : Bool := language != python

/-- Whether a block between triple quotes is documentation. -/
def hasQuotedBlocks (language : Language) : Bool := language == python

end Language
end CodeWiki
