import CodeWiki.Json.Number

/-!
Records read from JSON. A record is an object, whose unknown members are passed over, or an array of
its fields in order. Values that are used may be nested only so deep; values that are passed over
may be anything well formed.
-/
namespace CodeWiki.Json

/-- When the value of a field may be missing. -/
inductive Presence where
  /-- Never. -/
  | required
  /-- In an object, where it then counts as `null`. -/
  | nullable
  /-- In an object, and at the end of an array. -/
  | defaulted
deriving DecidableEq, Repr

/-- How deep arrays and objects that are used may be nested. -/
def maxDepth : Nat := 127

def valuesOf (key : Text) (members : List (JsonString × Json)) : List Json :=
  members.filterMap fun (k, value) => if k = some key then some value else none

/-- The values of a record's fields, with `none` for a missing one. A known member may not be
repeated, and every key has to be a text. -/
def record? (fields : List (Text × Presence)) : Json → Option (List (Option Json))
  | object members =>
    if members.any fun (key, _) => key.isNone then none
    else fields.mapM fun (key, presence) =>
      match valuesOf key members with
      | [] => if presence = .required then none else some none
      | [value] => some (some value)
      | _ => none
  | array items =>
    if fields.length < items.length then none
    else fields.zipIdx.mapM fun ((_, presence), i) =>
      match items[i]? with
      | some value => some (some value)
      | none => if presence = .defaulted then some none else none
  | _ => none

def text? : Json → Option Text
  | string content => content
  | _ => none

def nat? : Json → Option Nat
  | number numeral => natural? numeral
  | _ => none

def float? : Json → Option Floating
  | number numeral => double? numeral
  | _ => none

/-- A value or `null`; a missing value counts as `null`. -/
def option? (read : Json → Option α) : Option Json → Option (Option α)
  | none | some null => some none
  | some value => (read value).map some

/-- A list, each item read with one level of depth less. -/
def list? (read : Nat → Json → Option α) : Nat → Json → Option (List α)
  | depth + 1, array items => items.mapM (read depth)
  | _, _ => none

mutual

/-- Whether a value can be used as a whole: every string a text, every number in range, and nested
no deeper than `depth`. -/
def isUsable : Nat → Json → Bool
  | _, null | _, bool _ => true
  | _, number numeral => inRange numeral
  | _, string content => content.isSome
  | 0, array _ | 0, object _ => false
  | depth + 1, array items => areUsable depth items
  | depth + 1, object members => membersUsable depth members

def areUsable : Nat → List Json → Bool
  | _, [] => true
  | depth, item :: rest => isUsable depth item && areUsable depth rest

def membersUsable : Nat → List (JsonString × Json) → Bool
  | _, [] => true
  | depth, (key, value) :: rest => key.isSome && isUsable depth value && membersUsable depth rest

end

end CodeWiki.Json
