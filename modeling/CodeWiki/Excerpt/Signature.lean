import CodeWiki.Excerpt.Language
import CodeWiki.Text.Pattern

/-!
Signatures: the lines of a file that declare something at the outermost level of the language's
syntax, as far as the shape of a single line can tell.
-/
namespace CodeWiki.Signature

open Pattern

/-- White space, at least one character of it. -/
def blanks : Pattern := some (one { space := true })

def gap : Pattern := many (one { space := true })

def word : Pattern := some (one { word := true })

def keyword (t : Text) (others : List Text) : Pattern := seq (oneOf t others) blanks

/-- `class` with a name, or `def` with a name, possibly `async`. -/
def python : List Pattern := [
  all [keyword "class" [], word, anything],
  all [optional (keyword "async" []), keyword "def" [], word, anything]]

/-- An exported and named declaration anywhere in the line. -/
def javaScript : List Pattern := [
  all [anything, keyword "export" [], optional (keyword "default" []),
    optional (keyword "async" []),
    keyword "class" ["interface", "type", "function", "const", "enum"], word, anything]]

/-- A function, possibly with a receiver in parentheses, or a named structure or interface. -/
def go : List Pattern := [
  all [keyword "func" [],
    optional (all [text "(", many (one { chars := [')'], inverted := true }), text ")", gap]),
    word, anything],
  all [keyword "type" [], word, blanks, oneOf "struct" ["interface"],
    optional (seq (one { word := true, inverted := true }) anything)]]

/-- A type after its modifiers, or a method that begins with its visibility. -/
def jvmLike : List Pattern := [
  all [many (keyword "public" ["protected", "private", "internal", "static", "abstract", "final",
      "sealed", "partial"]),
    keyword "class" ["interface", "enum", "record", "struct"], word, anything],
  all [keyword "public" ["protected", "private", "internal"],
    some (one { word := true, space := true, chars := "<>[],.?" }), blanks, word, gap, text "(",
    anything]]

/-- A type or namespace, or the whole head of a function whose body may open at the line's end. -/
def cFamily : List Pattern := [
  all [keyword "class" ["struct", "namespace"], word, anything],
  all [some (seq (some (one { word := true, chars := ":<>*&" })) blanks),
    optional (one { chars := "*&" }), some (one { word := true, chars := ":~" }), gap, text "(",
    many (one { chars := [';'], inverted := true }), text ")", gap,
    optional (seq (text "const") gap), optional (text "\x7b")]]

/-- The patterns of a language's signature lines. -/
def patterns : Language → List Pattern
  | .python => python
  | .javaScript => javaScript
  | .go => go
  | .jvmLike => jvmLike
  | .cFamily => cFamily
  | .other => []

/-- Words that open a statement where a C declaration might be mistaken for one. -/
def controlWords : List Text :=
  ["if", "else", "for", "while", "switch", "return", "do", "catch"].map String.toList

/-- Whether a trimmed line that is not empty is a signature. -/
def isSignature (language : Language) (line : Text) : Bool :=
  let controls := language == .cFamily &&
    controlWords.contains (line.takeWhile Unicode.isAlphanumeric)
  !controls && (patterns language).any (·.accepts line)

/-- The signatures of a file, trimmed, in file order. -/
def find (language : Language) (code : Text) : List Text :=
  ((Text.lines code).map Text.trim).filter fun line => !line.isEmpty && isSignature language line

end CodeWiki.Signature
