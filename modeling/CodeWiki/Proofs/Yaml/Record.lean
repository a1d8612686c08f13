import CodeWiki.Proofs.Lookup
import CodeWiki.Settings.Given
import Mathlib.Data.List.Nodup

/-! Records read from mappings. Members that store into different places can be exchanged, so what
the entries of a mapping do to a record, one after another in their order, the members do in theirs:
each looks its entry up, and entries of other names are of no account. -/
namespace CodeWiki.Yaml.Member

variable {α β γ : Type} {root node : Node} {entries : List (Node × Node)} {seen : List Text}
  {named : List (Text × Node)} {members before after : List (Member α)} {m m' : Member α} {a : α}

/-- What a member makes of a record: it stores the value under its name if there is one. -/
def give (named : List (Text × Node)) (m : Member α) (a : α) : Option α :=
  match named.lookup m.name with
  | none => some a
  | some node => m.set? node a

/-- What members make of a record one after another. -/
def giveAll (named : List (Text × Node)) : List (Member α) → α → Option α
  | [], a => some a
  | m :: rest, a => (give named m a).bind (giveAll named rest)

theorem giveAll_append (named : List (Text × Node)) (before after : List (Member α)) (a : α) :
    giveAll named (before ++ after) a = (giveAll named before a).bind (giveAll named after) := by
  induction before generalizing a with
  | nil => rfl
  | cons m rest ih =>
    rw [List.cons_append, giveAll, giveAll, Option.bind_assoc]
    exact congrArg _ (funext ih)

theorem give_cons_of_ne {name : Text} (other : m.name ≠ name) :
    give ((name, node) :: named) m = give named m := by
  funext a
  rw [give, give, List.lookup_cons, beq_eq_false_iff_ne.mpr other]

theorem give_cons_self : give ((m.name, node) :: named) m = m.set? node := by
  funext a
  rw [give, List.lookup_cons_self]

theorem give_of_not_mem (absent : m.name ∉ named.map Prod.fst) : give named m = some := by
  funext a
  rw [give, List.lookup_eq_none_iff.mpr fun entry member => by
    rw [bne_iff_ne]
    exact fun same => absent (same ▸ List.mem_map_of_mem member)]

theorem giveAll_cons_of_ne {name : Text} (others : ∀ m ∈ members, m.name ≠ name) :
    giveAll ((name, node) :: named) members = giveAll named members := by
  induction members with
  | nil => rfl
  | cons m rest ih =>
    rw [List.forall_mem_cons] at others
    funext a
    rw [giveAll, giveAll, give_cons_of_ne others.1, ih others.2]

/-! ### Members that can be exchanged -/

/-- It does not matter which of two members is set first. -/
def Commute (m m' : Member α) : Prop :=
  ∀ (node node' : Node) (a : α), (m.set? node a).bind (m'.set? node') =
    (m'.set? node' a).bind (m.set? node)

theorem Commute.symm (commute : Commute m m') : Commute m' m := fun node node' a =>
  (commute node' node a).symm

theorem Commute.give (commute : Commute m m') (named : List (Text × Node)) (node : Node) (a : α) :
    (m.set? node a).bind (give named m') = (Member.give named m' a).bind (m.set? node) := by
  unfold Member.give
  cases named.lookup m'.name with
  | none => exact Option.bind_fun_some _
  | some node' => exact commute node node' a

theorem Commute.giveAll (commute : ∀ m' ∈ members, Commute m m') (named : List (Text × Node))
    (node : Node) (a : α) :
    (m.set? node a).bind (giveAll named members) =
      (Member.giveAll named members a).bind (m.set? node) := by
  induction members generalizing a with
  | nil => exact Option.bind_fun_some _
  | cons m' rest ih =>
    rw [List.forall_mem_cons] at commute
    calc (m.set? node a).bind (Member.giveAll named (m' :: rest))
        = ((m.set? node a).bind (Member.give named m')).bind (Member.giveAll named rest) :=
          (Option.bind_assoc _ _ _).symm
      _ = (Member.give named m' a).bind fun b =>
            (m.set? node b).bind (Member.giveAll named rest) := by
          rw [commute.1.give, Option.bind_assoc]
      _ = (Member.giveAll named (m' :: rest) a).bind (m.set? node) := by
          rw [Member.giveAll, Option.bind_assoc]
          exact congrArg _ (funext (ih commute.2))

theorem commute_of {name name' : String} {read? : Node → Option β} {read?' : Node → Option γ}
    {store : β → α → α} {store' : γ → α → α}
    (exchange : ∀ b c a, store' c (store b a) = store b (store' c a)) :
    Commute (.of name read? store) (.of name' read?' store') := by
  intro node node' a
  simp only [of, Option.bind_map]
  cases read? node with
  | none => cases read?' node' <;> rfl
  | some b =>
    cases read?' node' with
    | none => rfl
    | some c => exact congrArg some (exchange b c a)

theorem of_map (name : String) (read? : Node → Option β) (f : β → γ) (store : γ → α → α) :
    of name read? (fun b a => store (f b) a) = of name (Option.map f ∘ read?) store := by
  simp only [of, Function.comp_def, Option.map_map]

/-! ### Entries in any order -/

theorem giveAll_nil (members : List (Member α)) (a : α) : giveAll [] members a = some a := by
  induction members with
  | nil => rfl
  | cons m rest ih => exact ih

/-- The member of the first entry is set before all others, and after those that stand before it
just as well. -/
theorem giveAll_cons_self (commute : (before ++ m :: after).Pairwise Commute)
    (apart : ((before ++ m :: after).map Member.name).Nodup)
    (absent : m.name ∉ named.map Prod.fst) :
    giveAll ((m.name, node) :: named) (before ++ m :: after) a =
      (m.set? node a).bind (giveAll named (before ++ m :: after)) := by
  rw [List.map_append, List.map_cons, List.nodup_append, List.nodup_cons] at apart
  obtain ⟨-, ⟨later, -⟩, earlier⟩ := apart
  have previous : ∀ m' ∈ before, m'.name ≠ m.name := fun m' member =>
    earlier m'.name (List.mem_map_of_mem member) m.name List.mem_cons_self
  have afterwards : ∀ m' ∈ after, m'.name ≠ m.name := fun m' member same =>
    later (same ▸ List.mem_map_of_mem member)
  have exchange : ∀ m' ∈ before, Commute m m' := fun m' member =>
    ((List.pairwise_append.mp commute).2.2 m' member m List.mem_cons_self).symm
  have moved : (m.set? node a).bind (giveAll named (before ++ m :: after)) =
      ((m.set? node a).bind (giveAll named before)).bind (giveAll named (m :: after)) := by
    rw [Option.bind_assoc]
    exact congrArg _ (funext fun b => giveAll_append named before (m :: after) b)
  rw [moved, Commute.giveAll exchange, giveAll_append, giveAll_cons_of_ne previous,
    Option.bind_assoc]
  refine congrArg _ (funext fun b => ?_)
  rw [giveAll, give_cons_self, giveAll_cons_of_ne afterwards]
  refine congrArg _ (funext fun c => ?_)
  rw [giveAll, give_of_not_mem absent, Option.bind_some]

/-- By induction on the entries. -/
theorem readEntries?_eq (commute : members.Pairwise Commute)
    (apart : (members.map Member.name).Nodup)
    (spelt : entries.mapM (fun entry => (Node.text? root entry.1).map (·, entry.2)) = some named)
    (distinct : (named.map Prod.fst).Nodup) (fresh : ∀ name ∈ named.map Prod.fst, name ∉ seen) :
    readEntries? root members seen entries a = giveAll named members a := by
  induction entries generalizing named seen a with
  | nil =>
    cases spelt
    exact (giveAll_nil members a).symm
  | cons entry rest ih =>
    obtain ⟨key, node⟩ := entry
    rw [List.mapM_cons] at spelt
    obtain ⟨first, spelling, spelt⟩ := Option.bind_eq_some_iff.mp spelt
    obtain ⟨later, others, same⟩ := Option.bind_eq_some_iff.mp spelt
    obtain ⟨name, spells, rfl⟩ := Option.map_eq_some_iff.mp spelling
    cases same
    rw [List.map_cons, List.nodup_cons] at distinct
    rw [List.map_cons, List.forall_mem_cons] at fresh
    rw [readEntries?]
    simp only [spells, Option.bind_eq_bind, Option.bind_some]
    cases known : members.find? (·.name = name) with
    | none =>
      have unknown : ∀ m ∈ members, m.name ≠ name := fun m member => by
        simpa using List.find?_eq_none.mp known m member
      rw [giveAll_cons_of_ne unknown]
      exact ih others distinct.2 fresh.2
    | some m =>
      obtain ⟨called, before, after, rfl, -⟩ := List.find?_eq_some_iff_append.mp known
      obtain rfl : m.name = name := by simpa using called
      have unseen : seen.contains m.name = false := by simpa using fresh.1
      have rest' : ∀ b, readEntries? root (before ++ m :: after) (m.name :: seen) rest b =
          giveAll later (before ++ m :: after) b := fun b =>
        ih others distinct.2 fun name member => by
          simp only [List.mem_cons, not_or]
          exact ⟨fun same => distinct.1 (same ▸ member), fresh.2 name member⟩
      simp only [unseen, Bool.false_eq_true, if_false, rest']
      exact (giveAll_cons_self commute apart distinct.1).symm

/-- A mapping without a name that is given twice is read member by member. -/
theorem readRecord?_eq (commute : members.Pairwise Commute)
    (apart : (members.map Member.name).Nodup) (listed : root.entries? node = some named)
    (distinct : (named.map Prod.fst).Nodup) (a : α) :
    readRecord? root members node a = giveAll named members a := by
  unfold Node.entries? at listed
  unfold readRecord?
  cases resolved : root.resolve node with
  | mapping entries =>
    simp only [resolved] at listed
    exact readEntries?_eq commute apart listed distinct fun _ _ => List.not_mem_nil
  | scalar _ _ _ | sequence _ | anchored _ _ | aliasOf _ => simp [resolved] at listed

/-! ### Values that can be read -/

/-- The record with the value under the name of a member, if there is one that can be read. -/
def put (named : List (Text × Node)) (a : α) (m : Member α) : α := (give named m a).getD a

theorem giveAll_eq_foldl
    (readable : ∀ m ∈ members, ∀ node, named.lookup m.name = some node →
      ∀ a, (m.set? node a).isSome)
    (a : α) : giveAll named members a = some (members.foldl (put named) a) := by
  induction members generalizing a with
  | nil => rfl
  | cons m rest ih =>
    rw [List.forall_mem_cons] at readable
    have given : give named m a = some (put named a m) := by
      unfold put give
      cases found : named.lookup m.name with
      | none => rfl
      | some node =>
        obtain ⟨b, read⟩ := Option.isSome_iff_exists.mp (readable.1 node found a)
        simp only [read, Option.getD_some]
    rw [giveAll, given, Option.bind_some, ih readable.2]
    rfl

theorem put_of (name : String) {read? : Node → Option β} {store : β → α → α} (get : α → β)
    (kept : ∀ a, store (get a) a = a) :
    put named a (.of name read? store) =
      store (((named.lookup name.toList).bind read?).getD (get a)) a := by
  unfold put give
  simp only [of]
  cases named.lookup name.toList with
  | none => exact (kept a).symm
  | some node =>
    simp only [Option.bind_some]
    cases read? node with
    | none => exact (kept a).symm
    | some b => rfl

end CodeWiki.Yaml.Member
