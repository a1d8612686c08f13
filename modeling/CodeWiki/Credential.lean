import CodeWiki.Text.Basic

/-!
Credentials for language models. The form of a secret tells which backend it belongs to; a pool is a
sequence of credentials that is never empty, dealt out to tasks in turn.
-/
namespace CodeWiki

inductive Backend where
  | groq
  | gemini
deriving DecidableEq, Repr

def Backend.name : Backend → Text
  | .groq => "groq"
  | .gemini => "gemini"

structure Credential where
  secret : Text
deriving DecidableEq, Repr

namespace Credential

def groqMark : Text := "gsk_"

def backend (key : Credential) : Backend :=
  if groqMark.isPrefixOf key.secret then .groq else .gemini

/-- A credential as it may be shown: the backend and the last four characters. -/
def masked (key : Credential) : Text :=
  "ApiKey(" ++ key.backend.name ++ ", ..." ++ Text.takeEnd 4 key.secret ++ ")"

/-- The entries of a comma-separated list, trimmed, without the blank ones. -/
def splitList (t : Text) : List Text := ((t.splitOn ',').map Text.trim).filter (!·.isEmpty)

end Credential

/-- A sequence of credentials with at least one in it. -/
structure KeyPool where
  keys : List Credential
  nonempty : 0 < keys.length
deriving DecidableEq, Repr

namespace KeyPool

/-- The pool of the secrets that are not blank, trimmed; none if all are blank. -/
def ofSecrets? (secrets : List Text) : Option KeyPool :=
  let keys := ((secrets.map Text.trim).filter (!·.isEmpty)).map Credential.mk
  if nonempty : 0 < keys.length then some { keys, nonempty } else none

def size (pool : KeyPool) : Nat := pool.keys.length

def first (pool : KeyPool) : Credential := pool.keys.get ⟨0, pool.nonempty⟩

/-- The credential of the task with the number `i`: the pool is dealt out again and again. -/
def roundRobin (pool : KeyPool) (i : Nat) : Credential :=
  pool.keys.get ⟨i % pool.keys.length, Nat.mod_lt i pool.nonempty⟩

def count (pool : KeyPool) (backend : Backend) : Nat :=
  pool.keys.countP (·.backend = backend)

end KeyPool
end CodeWiki
