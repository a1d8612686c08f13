import CodeWiki.Text.Basic

/-!
The scratch directory of a checkout, and its removal. Removal is tried a few times, since something
else may hold on to the directory for a moment; read-only marks are cleared between the attempts.
-/
namespace CodeWiki

/-- What stands at the path of a scratch directory: nothing, a file with its permission bits, or a
directory with those of the entries in it. -/
inductive Occupant where
  | nothing
  | file (mode : Nat)
  | directory (modes : List Nat)
deriving DecidableEq, Repr

namespace Scratch

/-- The number of attempts to remove a directory. -/
def maxAttempts : Nat := 5

/-- The wait after the attempt with the given number, counted from zero, in milliseconds. -/
def waitMs (attempt : Nat) : Nat := 400 * (attempt + 1)

def writeBits : Nat := 0o222

/-- Permission bits with leave to write for everybody, unless somebody may write already. -/
def clearReadOnlyMode (mode : Nat) : Nat :=
  if mode &&& writeBits = 0 then mode ||| writeBits else mode

/-- Clears read-only marks at and below the path, but for the entries that are missed. -/
def clearReadOnly (misses : Nat → Bool) : Occupant → Occupant
  | .nothing => .nothing
  | .file mode => .file (if misses 0 then mode else clearReadOnlyMode mode)
  | .directory modes =>
    .directory (modes.mapIdx fun i mode => if misses i then mode else clearReadOnlyMode mode)

/-- One attempt to delete a directory with everything in it. Only a directory can be deleted, and
only if nothing prevents it. -/
def delete? (prevented : Bool) : Occupant → Option Occupant
  | .directory _ => if prevented then none else some .nothing
  | _ => none

/-- What a removal did: what it left at the path, the attempts it made, and its waits. -/
structure Removal where
  left : Occupant
  attempts : Nat
  waitsMs : List Nat
deriving DecidableEq, Repr

/-- What an attempt that was prevented has left of a directory; it leaves anything else as it is. -/
def spare (spared : List Nat → List Nat) : Occupant → Occupant
  | .directory modes => .directory (spared modes)
  | o => o

/-- What happens around a scratch directory. Attempts to remove it are counted from zero. -/
structure Surroundings where
  /-- Why the directory cannot be made, if it cannot. -/
  refusal : Option Text := none
  /-- What stands at the path before the removal. -/
  before : Occupant := .directory []
  /-- Whether something prevents an attempt. -/
  prevents : Nat → Bool := fun _ => false
  /-- The entries that a prevented attempt leaves. -/
  spares : Nat → List Nat → List Nat := fun _ modes => modes
  /-- Whether the entry at a place cannot be seen or changed when marks are cleared after an
  attempt. -/
  misses : Nat → Nat → Bool := fun _ _ => false
  /-- What the path holds after the wait that follows an attempt. -/
  meanwhile : Nat → Occupant → Occupant := fun _ o => o

/-- Attempts from the one with the given number on, while there are any left. -/
def removeFrom (around : Surroundings) : Nat → Nat → Occupant → Removal
  | 0, _, o => ⟨o, 0, []⟩
  | left + 1, attempt, o =>
    if o = .nothing then ⟨o, 0, []⟩
    else match delete? (around.prevents attempt) o with
      | some o => ⟨o, 1, []⟩
      | none =>
        let o := spare (around.spares attempt) o
        if left = 0 then ⟨o, 1, []⟩
        else
          let next := removeFrom around left (attempt + 1)
            (around.meanwhile attempt (clearReadOnly (around.misses attempt) o))
          ⟨next.left, next.attempts + 1, waitMs attempt :: next.waitsMs⟩

/-- Removes what stands at the path, with waits between the attempts. -/
def removeWithRetries (around : Surroundings) (o : Occupant) : Removal :=
  removeFrom around maxAttempts 0 o

/-- Removes what stands at the path in a single attempt: all that is done for a directory whose
removal has not been asked for. -/
def removeOnce (around : Surroundings) (o : Occupant) : Removal := removeFrom around 1 0 o

end Scratch
end CodeWiki
