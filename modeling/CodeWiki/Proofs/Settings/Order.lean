import CodeWiki.Proofs.Settings.File
import CodeWiki.Proofs.Yaml.Blank

/-! What a file of settings comes to. It depends neither on the order in which the file gives the
settings nor on what else the file gives. -/
namespace CodeWiki

open Yaml (Node)

/-! ### Entries in another order -/

/-- Whether two lists hold the same entries of known names, up to the order, to how the values are
written and to entries of other names. -/
def Yaml.Rearranged (known : Text → Bool) (same : Text → Node → Node → Prop)
    (entries entries' : List (Text × Node)) : Prop :=
  ∃ ordered, (entries.filter fun entry => known entry.1).Perm ordered ∧
    List.Forall₂ (fun entry entry' => entry.1 = entry'.1 ∧ same entry.1 entry.2 entry'.2) ordered
      (entries'.filter fun entry => known entry.1)

namespace Yaml.Rearranged

variable {known : Text → Bool} {same : Text → Node → Node → Prop}
  {entries entries' : List (Text × Node)} {name : Text} {node node' : Node}

theorem exists_of_mem (rearranged : Rearranged known same entries entries')
    (isKnown : known name = true) (member : (name, node) ∈ entries) :
    ∃ node', (name, node') ∈ entries' ∧ same name node node' := by
  obtain ⟨ordered, shuffled, paired⟩ := rearranged
  obtain ⟨⟨name', node'⟩, member', rfl, related⟩ :=
    exists_of_forall₂ paired (shuffled.mem_iff.mp (List.mem_filter.mpr ⟨member, isKnown⟩))
  exact ⟨node', (List.mem_filter.mp member').1, related⟩

theorem exists_of_mem' (rearranged : Rearranged known same entries entries')
    (isKnown : known name = true) (member : (name, node') ∈ entries') :
    ∃ node, (name, node) ∈ entries ∧ same name node node' := by
  obtain ⟨ordered, shuffled, paired⟩ := rearranged
  obtain ⟨⟨name', node⟩, member', called, related⟩ :=
    exists_of_forall₂ (List.Forall₂.flip paired) (List.mem_filter.mpr ⟨member, isKnown⟩)
  obtain rfl : name' = name := called
  exact ⟨node, (List.mem_filter.mp (shuffled.mem_iff.mpr member')).1, related⟩

/-- A known name is looked up with the same result. -/
theorem lookup (rearranged : Rearranged known same entries entries')
    (distinct : (entries.map Prod.fst).Nodup) (distinct' : (entries'.map Prod.fst).Nodup)
    (isKnown : known name = true) :
    Option.Rel (same name) (entries.lookup name) (entries'.lookup name) := by
  cases found : entries.lookup name with
  | some node =>
    obtain ⟨node', member, related⟩ := rearranged.exists_of_mem isKnown (mem_of_lookup found)
    rw [lookup_of_mem distinct' member]
    exact .some related
  | none =>
    cases found' : entries'.lookup name with
    | none => exact .none
    | some node' =>
      obtain ⟨node, member, -⟩ := rearranged.exists_of_mem' isKnown (mem_of_lookup found')
      rw [lookup_of_mem distinct member] at found
      cases found

end Yaml.Rearranged

theorem bind_eq_of_rel {α β γ : Type} {r : α → β → Prop} {x : Option α} {y : Option β}
    {f : α → Option γ} {g : β → Option γ} (related : Option.Rel r x y)
    (agree : ∀ a b, x = some a → y = some b → r a b → f a = g b) :
    x.bind f = y.bind g := by
  cases related with
  | some related => exact agree _ _ rfl rfl related
  | none => rfl

namespace Settings

variable {root root' node node' : Node} {kinds : List (Text × SettingKind)}

/-- Whether two sections give the same fields. -/
def SameFields (root root' : Node) (kinds : List (Text × SettingKind)) (node node' : Node) : Prop :=
  ∃ fields fields', root.entries? node = some fields ∧ root'.entries? node' = some fields' ∧
    Yaml.Rearranged (fun name => (kinds.lookup name).isSome)
      (fun name value value' => ∀ kind, kinds.lookup name = some kind →
        kind.read? root value = kind.read? root' value') fields fields'

/-- Whether two documents give the same sections. -/
def SameSections (root root' : Node) : Prop :=
  ∃ named named', root.entries? root = some named ∧ root'.entries? root' = some named' ∧
    Yaml.Rearranged (fun heading => (sections.lookup heading).isSome)
      (fun heading node node' => ∀ kinds, sections.lookup heading = some kinds →
        SameFields root root' kinds node node') named named'

theorem valueIn?_of_sameFields (same : SameFields root root' kinds node node')
    (isSection : IsSection root kinds node) (isSection' : IsSection root' kinds node') :
    ∃ fields fields', root.entries? node = some fields ∧ root'.entries? node' = some fields' ∧
      valueIn? root kinds fields = valueIn? root' kinds fields' := by
  obtain ⟨fields, fields', listed, listed', rearranged⟩ := same
  obtain ⟨_, again, distinct, -⟩ := isSection
  obtain ⟨_, again', distinct', -⟩ := isSection'
  cases listed.symm.trans again
  cases listed'.symm.trans again'
  refine ⟨fields, fields', listed, listed', funext fun name => ?_⟩
  cases known : kinds.lookup name with
  | none => simp only [valueIn?, known, Option.bind_eq_bind, Option.bind_none]
  | some kind =>
    rw [valueIn?_eq known, valueIn?_eq known]
    refine bind_eq_of_rel (rearranged.lookup distinct distinct' (Option.isSome_of_eq_some known)) ?_
    exact fun _ _ _ _ related => related kind known

theorem given?_of_sameSections (proper : IsProper root) (proper' : IsProper root')
    (same : SameSections root root') : given? root = given? root' := by
  obtain ⟨named, named', listed, listed', rearranged⟩ := same
  obtain ⟨_, again, distinct, typed⟩ := proper
  obtain ⟨_, again', distinct', typed'⟩ := proper'
  cases listed.symm.trans again
  cases listed'.symm.trans again'
  funext heading name
  unfold given?
  cases known : sections.lookup heading with
  | none => rfl
  | some kinds =>
    simp only [listed, listed', Option.bind_eq_bind, Option.bind_some]
    refine bind_eq_of_rel (rearranged.lookup distinct distinct' (Option.isSome_of_eq_some known)) ?_
    intro node node' found found' related
    obtain ⟨fields, fields', listed, listed', agree⟩ := valueIn?_of_sameFields (related kinds known)
      (typed _ (mem_of_lookup found) kinds known) (typed' _ (mem_of_lookup found') kinds known)
    simp only [listed, listed', Option.bind_some, agree]

/-! ### Files -/

theorem not_isBlank_of_isProper {t : Text} (read : Node.ofText? t = some root)
    (proper : IsProper root) : Text.isBlank t = false := by
  refine Bool.eq_false_iff.mpr fun blank => ?_
  obtain ⟨content, rfl⟩ := Node.ofText?_of_isBlank blank read
  obtain ⟨entries, listed, -⟩ := proper
  cases listed

theorem ofFile_eq_check {t : Text} {bytes : Bytes} (path : Text)
    (decoded : Utf8.decode? bytes = some t) (read : Node.ofText? t = some root)
    (proper : IsProper root) :
    ofFile path (.ok bytes) = (ofGiven (given? root)).check := by
  simp only [ofFile, decoded, ofText, not_isBlank_of_isProper read proper, Bool.false_eq_true,
    if_false, read, ofNode, ofNode?_of_isProper proper]

theorem problem?_of_check {s s' : Settings} (checked : s.check = .ok s') : s'.problem? = none := by
  unfold check at checked
  split at checked
  · cases checked
  · rename_i sound
    cases checked
    exact sound

theorem problem?_default : ({} : Settings).problem? = none := by decide

theorem problem?_of_ofFile {path : Text} {content : Except Text Bytes} {s : Settings}
    (read : ofFile path content = .ok s) : s.problem? = none := by
  unfold ofFile ofText ofNode at read
  split at read
  · cases read
  · split at read
    · split at read
      · cases read
        exact problem?_default
      · split at read
        · split at read
          · exact problem?_of_check read
          · cases read
        · cases read
    · cases read

/-! Two files with the same settings. -/
namespace Sample

def plain (t : String) : Node := .scalar t .plain none

/-- Two settings of one section, among entries that are passed over. -/
def text : Text := "x: 1\ncache:\n  ttl_secs: 5\n  b: ~\n  capacity: 7\n"

def document : Node := .mapping [
  (plain "x", plain "1"),
  (plain "cache", .mapping [
    (plain "ttl_secs", plain "5"), (plain "b", plain "~"), (plain "capacity", plain "7")])]

/-- The same settings in another order. -/
def text' : Text := "cache: \x7bcapacity: 7, ttl_secs: 5\x7d\n"

def document' : Node := .mapping [
  (plain "cache", .mapping [(plain "capacity", plain "7"), (plain "ttl_secs", plain "5")])]

theorem ofText?_text : Node.ofText? text = some document := by decide +kernel

theorem ofText?_text' : Node.ofText? text' = some document' := by decide +kernel

theorem isProper_document : IsProper document := by
  refine ⟨_, rfl, by decide, List.forall_mem_cons.mpr ⟨nofun, List.forall_mem_cons.mpr ⟨?_, nofun⟩⟩⟩
  rintro _ ⟨⟩
  refine ⟨_, rfl, by decide, List.forall_mem_cons.mpr ⟨?_, List.forall_mem_cons.mpr ⟨nofun,
    List.forall_mem_cons.mpr ⟨?_, nofun⟩⟩⟩⟩
  all_goals
    rintro _ ⟨⟩
    decide

theorem isProper_document' : IsProper document' := by
  refine ⟨_, rfl, by decide, List.forall_mem_cons.mpr ⟨?_, nofun⟩⟩
  rintro _ ⟨⟩
  refine ⟨_, rfl, by decide, List.forall_mem_cons.mpr ⟨?_, List.forall_mem_cons.mpr ⟨?_, nofun⟩⟩⟩
  all_goals
    rintro _ ⟨⟩
    decide

theorem sameSections : SameSections document document' := by
  refine ⟨_, _, rfl, rfl, _, .refl _, .cons ⟨rfl, ?_⟩ .nil⟩
  rintro _ ⟨⟩
  refine ⟨_, _, rfl, rfl, _, .swap _ _ _, .cons ⟨rfl, ?_⟩ (.cons ⟨rfl, ?_⟩ .nil)⟩
  all_goals
    rintro _ ⟨⟩
    decide

end Sample

/-- A proper file gives the defaults with what stands in the file in their places, if these settings
can drive a run, and else it is refused. In both cases another file with the same entries in another
order, and with any entries of other names, comes to the same. Settings that cannot drive a run come
from no file, proper or not, and the defaults, which stand without a file, are none of them. -/
theorem ofFile_of_isProper {bytes : Bytes} {t : Text} {root : Node} (path : Text)
    (decoded : Utf8.decode? bytes = some t) (read : Node.ofText? t = some root)
    (proper : IsProper root) :
    ((ofGiven (given? root)).problem? = none →
      ofFile path (.ok bytes) = .ok (ofGiven (given? root))) ∧
    (∀ problem, (ofGiven (given? root)).problem? = some problem →
      ofFile path (.ok bytes) = .error (.invalid problem.message)) ∧
    (∀ bytes' t' root', Utf8.decode? bytes' = some t' → Node.ofText? t' = some root' →
      IsProper root' → SameSections root root' →
      ofFile path (.ok bytes') = ofFile path (.ok bytes)) ∧
    (∀ content s, ofFile path content = .ok s → s.problem? = none) ∧
      ({} : Settings).problem? = none := by
  have checked := ofFile_eq_check path decoded read proper
  refine ⟨fun sound => ?_, fun problem found => ?_, ?_, fun content s => problem?_of_ofFile,
    problem?_default⟩
  · simp only [checked, check, sound]
  · simp only [checked, check, found]
  · intro bytes' t' root' decoded' read' proper' same
    rw [checked, ofFile_eq_check path decoded' read' proper',
      given?_of_sameSections proper proper' same]

theorem both_files_read :
    ofFile "wiki.yaml" (.ok (Utf8.encode Sample.text)) =
        .ok { retention := { lifetimeSecs := 5, capacity := 7 } } ∧
      ofFile "wiki.yaml" (.ok (Utf8.encode Sample.text')) =
        ofFile "wiki.yaml" (.ok (Utf8.encode Sample.text)) :=
  have read := ofFile_of_isProper "wiki.yaml" (by decide +kernel) Sample.ofText?_text
    Sample.isProper_document
  ⟨read.1 (by decide), read.2.2.1 _ _ _ (by decide +kernel) Sample.ofText?_text'
    Sample.isProper_document' Sample.sameSections⟩

end Settings
end CodeWiki
