import CodeWiki.Text.Basic

/-!
JSON values as they are written: numbers keep their digits, objects keep the order and the
repetitions of their members. What a number or a repeated member means is up to whoever reads it.
-/
namespace CodeWiki

/-- The content of a JSON string. Escapes may spell a surrogate without its partner; such a string
is well formed but no text, which is what `none` says. -/
abbrev JsonString := Option Text

inductive Json where
  | null
  | bool (value : Bool)
  | number (numeral : Text)
  | string (content : JsonString)
  | array (items : List Json)
  | object (members : List (JsonString × Json))

namespace Json

def text (t : Text) : Json := string (some t)

def texts (ts : List Text) : Json := array (ts.map text)

def nat (n : Nat) : Json := number (Text.ofNat n)

def ofFields (fields : List (Text × Json)) : Json :=
  object (fields.map fun (key, value) => (some key, value))

/-- A value or nothing, which is written `null`. -/
def ofOption (write : α → Json) : Option α → Json
  | none => null
  | some a => write a

/-- The value of the last member called `key`. -/
def member? (key : Text) : Json → Option Json
  | object members => members.reverse.lookup (some key)
  | _ => none

end Json
end CodeWiki
