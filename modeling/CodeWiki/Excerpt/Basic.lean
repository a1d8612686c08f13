import CodeWiki.Excerpt.Signature
import CodeWiki.Excerpt.Comment
import CodeWiki.Excerpt.Density

/-!
The excerpt that stands for a file: its signatures alone if there are enough of them, else the
signatures and the busiest lines of the file without comments.
-/
namespace CodeWiki

structure ExcerptSettings where
  /-- A file with fewer signatures than this gets its busiest lines as well. -/
  signatureThreshold : Nat := 10
  /-- Signatures shown of a file that has enough of them. -/
  signatureCap : Nat := 25
  /-- The number of busiest lines shown. -/
  excerptLines : Nat := 50
deriving DecidableEq, Repr

namespace Excerpt

/-- Stands between the signatures and the busiest lines. -/
def separator : Text := "\n\n--- CORE LOGIC SNIPPETS ---\n"

def ofFile (settings : ExcerptSettings) (path code : Text) : Text :=
  let language := Language.ofPath path
  let signatures := Signature.find language code
  if settings.signatureThreshold ≤ signatures.length then
    Text.join ['\n'] (signatures.take settings.signatureCap)
  else
    Text.join ['\n'] signatures ++ separator ++
      Density.busiest settings.excerptLines (Comment.strip language code)

end Excerpt
end CodeWiki
