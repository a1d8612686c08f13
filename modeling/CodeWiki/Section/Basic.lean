import CodeWiki.Text.Basic

/-!
Sections: the pages of a wiki.
-/
namespace CodeWiki

/-- A section with its paragraphs, and with its subsections if it has any. -/
inductive WikiSection where
  | mk (id title : Text) (content : List Text) (children : Option (List WikiSection))

namespace WikiSection

/-- The identifier, by which links refer to the section. -/
def id : WikiSection → Text
  | mk id _ _ _ => id

def title : WikiSection → Text
  | mk _ title _ _ => title

def content : WikiSection → List Text
  | mk _ _ content _ => content

/-- The subsections; a section may have an empty list of them, or none at all. -/
def children : WikiSection → Option (List WikiSection)
  | mk _ _ _ children => children

mutual

def decEq : (a b : WikiSection) → Decidable (a = b)
  | mk id title content children, mk id' title' content' children' =>
    have := decEqChildren children children'
    decidable_of_iff (id = id' ∧ title = title' ∧ content = content' ∧ children = children')
      (by simp)

def decEqChildren : (a b : Option (List WikiSection)) → Decidable (a = b)
  | none, none => isTrue rfl
  | some a, some b =>
    have := decEqs a b
    decidable_of_iff (a = b) (by simp)
  | none, some _ | some _, none => isFalse nofun

def decEqs : (a b : List WikiSection) → Decidable (a = b)
  | [], [] => isTrue rfl
  | s :: rest, s' :: rest' =>
    have := decEq s s'
    have := decEqs rest rest'
    decidable_of_iff (s = s' ∧ rest = rest') (by simp)
  | [], _ :: _ | _ :: _, [] => isFalse nofun

end

instance : DecidableEq WikiSection := decEq

end WikiSection
end CodeWiki
