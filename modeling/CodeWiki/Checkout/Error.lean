import CodeWiki.Text.Quoted

/-!
What can go wrong when a repository is fetched.
-/
namespace CodeWiki

inductive CheckoutError where
  | toolUnavailable
  | timeout (secs : Nat)
  | cloneFailed (reason : Text)
  | noEligibleFiles
  | invalidReference (reference : Text)
  | io (reason : Text)
deriving DecidableEq, Repr

namespace CheckoutError

def message : CheckoutError → Text
  | toolUnavailable => "Git is not installed or not in PATH"
  | timeout secs =>
    "Git clone timed out after " ++ Text.ofNat secs ++
      "s; the repository may be too large or the connection is slow"
  | cloneFailed reason => "Git clone failed: " ++ reason
  | noEligibleFiles => "No code files found in repository"
  | invalidReference reference => "Invalid repository reference: " ++ Text.quoted reference
  | io reason => "I/O error while reading repository: " ++ reason

def causes : CheckoutError → List Text
  | io reason => [reason]
  | _ => []

end CheckoutError
end CodeWiki
