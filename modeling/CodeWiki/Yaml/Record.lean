import CodeWiki.Yaml.Node
import CodeWiki.Yaml.Scalar.Number

/-!
Values and records read from nodes. A record starts out with its defaults, and each member that is
given replaces one of them. Unknown members are passed over; a known member may be given once.
-/
namespace CodeWiki.Yaml

namespace Node

/-- The content of a scalar, however it is written. -/
def text? (root node : Node) : Option Text :=
  match root.resolve node with
  | scalar content _ _ => some content
  | _ => none

/-- The content of a scalar that may be a number: a plain one, or a literal block with the tag of
the kind of number. -/
def numeral? (kind : Text) (root node : Node) : Option Text :=
  match root.resolve node with
  | scalar content .plain _ => some content
  | scalar content .literal tag => if tag = some kind then some content else none
  | _ => none

def wholeTag : Text := "tag:yaml.org,2002:int"

def fractionTag : Text := "tag:yaml.org,2002:float"

/-- A whole number below `bound`, which is at most `2^64`. -/
def natural? (bound : Nat) (root node : Node) : Option Nat :=
  ((numeral? wholeTag root node).bind Whole.read?).filter (· < bound)

def double? (root node : Node) : Option Floating :=
  (numeral? fractionTag root node).bind Fraction.read?

def texts? (root node : Node) : Option (List Text) :=
  match root.resolve node with
  | sequence items => items.mapM (text? root)
  | node => if node.isAbsent then some [] else none

end Node

/-- A member of a record: its name, and the record with the member read from a node. -/
structure Member (α : Type) where
  name : Text
  set? : Node → α → Option α

namespace Member

variable {α β : Type}

def of (name : String) (read? : Node → Option β) (store : β → α → α) : Member α where
  name := name
  set? node a := (read? node).map (store · a)

/-- Reads the entries of a mapping into a record; the members in `seen` have been given before. -/
def readEntries? (root : Node) (members : List (Member α)) (seen : List Text) :
    List (Node × Node) → α → Option α
  | [], a => some a
  | (key, value) :: rest, a => do
    let name ← Node.text? root key
    match members.find? (·.name = name) with
    | none => readEntries? root members seen rest a
    | some m =>
      if seen.contains name then none
      else readEntries? root members (name :: seen) rest (← m.set? value a)

def readRecord? (root : Node) (members : List (Member α)) (node : Node) (a : α) : Option α :=
  match root.resolve node with
  | .mapping entries => readEntries? root members [] entries a
  | node => if node.isAbsent then some a else none

end Member
end CodeWiki.Yaml
