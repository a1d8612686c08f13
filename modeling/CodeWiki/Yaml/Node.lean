import CodeWiki.Yaml.Token

/-!
The nodes of a YAML document.
-/
namespace CodeWiki.Yaml

/-- A node. A node with an anchor has a number, by which aliases refer to it; a node may be referred
to from inside itself. -/
inductive Node where
  | scalar (content : Text) (style : ScalarStyle) (tag : Option Text)
  | sequence (items : List Node)
  | mapping (entries : List (Node × Node))
  | anchored (number : Nat) (node : Node)
  | aliasOf (number : Nat)

namespace Node

mutual

def decEq : (a b : Node) → Decidable (a = b)
  | scalar content style tag, scalar content' style' tag' =>
    decidable_of_iff (content = content' ∧ style = style' ∧ tag = tag') (by simp)
  | sequence items, sequence items' =>
    have := decEqItems items items'
    decidable_of_iff (items = items') (by simp)
  | mapping entries, mapping entries' =>
    have := decEqEntries entries entries'
    decidable_of_iff (entries = entries') (by simp)
  | anchored number node, anchored number' node' =>
    have := decEq node node'
    decidable_of_iff (number = number' ∧ node = node') (by simp)
  | aliasOf number, aliasOf number' => decidable_of_iff (number = number') (by simp)
  | scalar .., sequence _ | scalar .., mapping _ | scalar .., anchored .. | scalar .., aliasOf _
  | sequence _, scalar .. | sequence _, mapping _ | sequence _, anchored .. | sequence _, aliasOf _
  | mapping _, scalar .. | mapping _, sequence _ | mapping _, anchored .. | mapping _, aliasOf _
  | anchored .., scalar .. | anchored .., sequence _ | anchored .., mapping _
  | anchored .., aliasOf _ | aliasOf _, scalar .. | aliasOf _, sequence _ | aliasOf _, mapping _
  | aliasOf _, anchored .. => isFalse nofun

def decEqItems : (a b : List Node) → Decidable (a = b)
  | [], [] => isTrue rfl
  | item :: rest, item' :: rest' =>
    have := decEq item item'
    have := decEqItems rest rest'
    decidable_of_iff (item = item' ∧ rest = rest') (by simp)
  | [], _ :: _ | _ :: _, [] => isFalse nofun

def decEqEntries : (a b : List (Node × Node)) → Decidable (a = b)
  | [], [] => isTrue rfl
  | (key, value) :: rest, (key', value') :: rest' =>
    have := decEq key key'
    have := decEq value value'
    have := decEqEntries rest rest'
    decidable_of_iff (key = key' ∧ value = value' ∧ rest = rest') (by simp [and_assoc])
  | [], _ :: _ | _ :: _, [] => isFalse nofun

end

instance : DecidableEq Node := decEq

def absent : Node := scalar [] .plain none

def isAbsent : Node → Bool
  | scalar [] .plain _ => true
  | _ => false

def bare : Node → Node
  | anchored _ node => node
  | node => node

mutual

def find? (number : Nat) : Node → Option Node
  | sequence items => findAmong? number items
  | mapping entries => findInPairs? number entries
  | anchored n node => (find? number node).or (if n = number then some node else none)
  | _ => none

/-- The last node with the given number among or below items. -/
def findAmong? (number : Nat) : List Node → Option Node
  | [] => none
  | item :: rest => (findAmong? number rest).or (find? number item)

/-- The last node with the given number among or below the keys and values of entries. -/
def findInPairs? (number : Nat) : List (Node × Node) → Option Node
  | [] => none
  | (key, value) :: rest =>
    (findInPairs? number rest).or ((find? number value).or (find? number key))

end

/-- What a node of the document `root` stands for. -/
def resolve (root : Node) : Node → Node
  | aliasOf number => ((root.find? number).getD absent).bare
  | node => node.bare

end Node
end CodeWiki.Yaml
