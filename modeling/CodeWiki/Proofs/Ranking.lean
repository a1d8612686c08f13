import Mathlib.Data.List.Sort

/-! Lists sorted by a falling key. The sort leaves elements of one key in the order that they had,
so the result is ordered by key and place; and there is one best selection of a given size. -/
namespace CodeWiki

variable {α : Type} {key : α → Nat} {before : α → α → Prop} {l kept other : List α}

/-- The elements of a list from the highest key to the lowest. -/
def ranked (key : α → Nat) (l : List α) : List α := l.mergeSort fun a b => key b ≤ key a

/-- Of a higher key than another element, or of the same key and before it. -/
def Outranks (key : α → Nat) (before : α → α → Prop) (a b : α) : Prop :=
  key b < key a ∨ key b = key a ∧ before a b

theorem key_trans (key : α → Nat) (a b c : α) (first : decide (key a ≤ key b) = true)
    (second : decide (key b ≤ key c) = true) : decide (key a ≤ key c) = true :=
  decide_eq_true (Nat.le_trans (of_decide_eq_true first) (of_decide_eq_true second))

theorem key_total (key : α → Nat) (a b : α) :
    (decide (key a ≤ key b) || decide (key b ≤ key a)) = true := by
  rw [Bool.or_eq_true, decide_eq_true_eq, decide_eq_true_eq]
  exact Nat.le_total _ _

theorem falling_trans (key : α → Nat) (a b c : α) (first : decide (key b ≤ key a) = true)
    (second : decide (key c ≤ key b) = true) : decide (key c ≤ key a) = true :=
  key_trans key c b a second first

theorem falling_total (key : α → Nat) (a b : α) :
    (decide (key b ≤ key a) || decide (key a ≤ key b)) = true := key_total key b a

theorem ranked_perm (key : α → Nat) (l : List α) : (ranked key l).Perm l := List.mergeSort_perm _ _

/-- Elements of one key stay in their order. -/
theorem filter_ranked (key : α → Nat) (l : List α) (value : Nat) :
    (ranked key l).filter (key · == value) = l.filter (key · == value) := by
  have tied : (l.filter (key · == value)).Pairwise fun a b => decide (key b ≤ key a) = true := by
    refine List.pairwise_of_forall_mem_list fun a first b second => decide_eq_true ?_
    have left := (List.mem_filter.mp first).2
    have right := (List.mem_filter.mp second).2
    rw [beq_iff_eq] at left right
    omega
  have inside := List.sublist_mergeSort (falling_trans key) (falling_total key) tied
    List.filter_sublist
  have both : ((l.filter (key · == value)).filter (key · == value)).Sublist
      ((ranked key l).filter (key · == value)) := inside.filter _
  rw [List.filter_filter] at both
  simp only [Bool.and_self] at both
  exact (both.eq_of_length ((ranked_perm key l).filter _).length_eq.symm).symm

theorem ranked_pairwise (key : α → Nat) (inOrder : l.Pairwise before) :
    (ranked key l).Pairwise (Outranks key before) := by
  refine List.pairwise_iff_forall_sublist.mpr fun {a b} pair => ?_
  have falling := List.pairwise_mergeSort (falling_trans key) (falling_total key) l
  have value := of_decide_eq_true (List.pairwise_iff_forall_sublist.mp falling pair)
  rcases Nat.lt_or_eq_of_le value with worse | tied
  · exact Or.inl worse
  · have same : ([a, b].filter (key · == key a)).Sublist ((ranked key l).filter (key · == key a)) :=
      pair.filter _
    rw [filter_ranked] at same
    simp only [List.filter_cons, beq_self_eq_true, tied, if_true, List.filter_nil] at same
    have later := same.trans List.filter_sublist
    exact Or.inr ⟨tied, List.pairwise_iff_forall_sublist.mp inOrder later⟩

/-- Two selections of one size are the same unless each has an element that the other leaves out. -/
theorem subset_of_no_exchange (nodup : other.Nodup) (sizes : kept.length = other.length)
    (clash : ∀ a ∈ kept, a ∉ other → ∀ b ∈ other, b ∉ kept → False) : kept ⊆ other := by
  intro a member
  by_contra absent
  have inside : other ⊆ kept := fun b member' => by
    by_contra absent'
    exact clash a member absent b member' absent'
  have same := (List.subperm_of_subset nodup inside).perm_of_length_le (Nat.le_of_eq sizes)
  exact absent (same.mem_iff.mpr member)

theorem eq_of_no_exchange {R : α → α → Prop} (asymm : ∀ a b, R a b → ¬ R b a)
    (inOrder : kept.Pairwise R) (inOrder' : other.Pairwise R) (sizes : kept.length = other.length)
    (clash : ∀ a ∈ kept, a ∉ other → ∀ b ∈ other, b ∉ kept → False) : other = kept := by
  have nodup : ∀ {l : List α}, l.Pairwise R → l.Nodup := by
    intro l ordered
    refine List.Pairwise.imp ?_ ordered
    rintro a _ less rfl
    exact asymm a a less less
  have fewer := subset_of_no_exchange (nodup inOrder') sizes clash
  have more := subset_of_no_exchange (nodup inOrder) sizes.symm
    fun b member' absent' a member absent => clash a member absent b member' absent'
  have same : other.Perm kept := (List.perm_ext_iff_of_nodup (nodup inOrder') (nodup inOrder)).mpr
    fun a => ⟨fun member => more member, fun member => fewer member⟩
  exact same.eq_of_pairwise (fun a b _ _ less more => absurd more (asymm a b less)) inOrder' inOrder

end CodeWiki
