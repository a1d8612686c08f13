import CodeWiki.Proofs.Retention
import CodeWiki.Retention.History
import Mathlib.Data.Finset.Card
import Mathlib.Data.Finset.Dedup

/-! What a store answers after any history. The results put in last, one for each key and the newest
first, are all that matters: the store holds those of the first `capacity` of them that are still
fresh, and perhaps some that are not, which no look-up gives back. -/
namespace CodeWiki.Store

variable {α : Type} {s : Store α} {now later lifetime capacity : Nat} {key : Text} {value : α}
  {entry : Retained α} {entries recent news : List (Retained α)}
  {history : List (Nat × Operation α)}

/-- The last result of each key among results of which the newest comes first. -/
def latest : List (Retained α) → List (Retained α)
  | [] => []
  | entry :: older => entry :: without entry.key (latest older)

def NewestFirst (entries : List (Retained α)) : Prop :=
  entries.Pairwise fun a b => b.storedAt < a.storedAt

def OnePerKey (entries : List (Retained α)) : Prop := entries.Pairwise fun a b => a.key ≠ b.key

theorem mem_without : entry ∈ without key entries ↔ entry ∈ entries ∧ entry.key ≠ key := by
  simp [without]

theorem without_eq_self (absent : key ∉ entries.map Retained.key) :
    without key entries = entries := by
  simp only [without, List.filter_eq_self, decide_eq_true_eq]
  intro entry member same
  exact absent (same ▸ List.mem_map_of_mem member)

theorem filter_without (p : Retained α → Bool) :
    (without key entries).filter p = without key (entries.filter p) := List.filter_comm _ _ entries

theorem latest_sublist (news : List (Retained α)) : (latest news).Sublist news := by
  induction news with
  | nil => exact List.Sublist.refl _
  | cons entry older ih => exact ((without_sublist _ _).trans ih).cons_cons entry

theorem onePerKey_latest (news : List (Retained α)) : OnePerKey (latest news) := by
  induction news with
  | nil => exact List.Pairwise.nil
  | cons entry older ih =>
    refine List.pairwise_cons.mpr ⟨?_, ih.sublist (without_sublist _ _)⟩
    intro other member
    exact (mem_without.mp member).2.symm

theorem key_mem_latest : key ∈ (latest news).map Retained.key ↔ key ∈ news.map Retained.key := by
  induction news with
  | nil => rfl
  | cons entry older ih =>
    simp only [latest, List.map_cons, List.mem_cons]
    by_cases same : key = entry.key
    · simp [same]
    · rw [← ih]
      simp only [same, false_or, List.mem_map, mem_without]
      constructor
      · rintro ⟨other, ⟨member, -⟩, rfl⟩
        exact ⟨other, member, rfl⟩
      · rintro ⟨other, member, rfl⟩
        exact ⟨other, ⟨member, same⟩, rfl⟩

theorem length_latest (news : List (Retained α)) :
    (latest news).length = (news.map Retained.key).toFinset.card := by
  have distinct : ((latest news).map Retained.key).Nodup :=
    List.pairwise_map.mpr (onePerKey_latest news)
  have keys : ((latest news).map Retained.key).toFinset = (news.map Retained.key).toFinset := by
    ext key
    simp only [List.mem_toFinset, key_mem_latest]
  rw [← keys, List.toFinset_card_of_nodup distinct, List.length_map]

/-- A result stays behind those that are put in after it, as long as none of them has its key. -/
theorem latest_append {newer : List (Retained α)} (absent : entry.key ∉ newer.map Retained.key)
    (older : List (Retained α)) :
    ∃ rest, latest (newer ++ entry :: older) = latest newer ++ entry :: rest := by
  induction newer with
  | nil => exact ⟨_, rfl⟩
  | cons other newer ih =>
    simp only [List.map_cons, List.mem_cons, not_or] at absent
    obtain ⟨rest, same⟩ := ih absent.2
    refine ⟨without other.key rest, ?_⟩
    simp [latest, same, without, absent.1]

theorem exists_of_mem_latest (member : entry ∈ latest news) :
    ∃ newer older, news = newer ++ entry :: older ∧ entry.key ∉ newer.map Retained.key := by
  induction news with
  | nil => cases member
  | cons other news ih =>
    rcases List.mem_cons.mp member with rfl | member
    · exact ⟨[], news, rfl, List.not_mem_nil⟩
    · obtain ⟨member, different⟩ := mem_without.mp member
      obtain ⟨newer, older, rfl, absent⟩ := ih member
      refine ⟨other :: newer, older, rfl, ?_⟩
      simpa [different] using absent

/-- Where whoever satisfies `p` comes first, taking and selecting can be exchanged. -/
theorem filter_take {p : Retained α → Bool} (n : Nat)
    (first : entries.Pairwise fun a b => p b = true → p a = true) :
    (entries.take n).filter p = (entries.filter p).take n := by
  induction entries generalizing n with
  | nil => simp
  | cons entry rest ih =>
    obtain ⟨head, tail⟩ := List.pairwise_cons.mp first
    cases n with
    | zero => rfl
    | succ n =>
      by_cases satisfied : p entry = true
      · simp [satisfied, ih n tail]
      · have none : ∀ other ∈ rest, p other = false := by
          intro other member
          exact Bool.eq_false_iff.mpr fun h => satisfied (head other member h)
        have taken : ∀ other ∈ rest.take n, p other = false :=
          fun other member => none other (List.mem_of_mem_take member)
        simp [satisfied, List.filter_eq_nil_iff.mpr (by simpa using none),
          List.filter_eq_nil_iff.mpr (by simpa using taken)]

theorem NewestFirst.freshFirst (sorted : NewestFirst entries) :
    entries.Pairwise fun a b => s.isFresh now b = true → s.isFresh now a = true := by
  refine sorted.imp ?_
  intro a b older fresh
  simp only [isFresh, decide_eq_true_eq] at fresh ⊢
  omega

/-- Without one of the first `n + 1` entries the first `n` are left. -/
theorem without_take {n : Nat} (distinct : OnePerKey entries)
    (present : key ∈ (entries.take (n + 1)).map Retained.key) :
    without key (entries.take (n + 1)) = (without key entries).take n := by
  induction entries generalizing n with
  | nil => cases present
  | cons entry rest ih =>
    obtain ⟨head, tail⟩ := List.pairwise_cons.mp distinct
    by_cases same : entry.key = key
    · have absent : key ∉ rest.map Retained.key := by
        intro member
        obtain ⟨other, occurs, rfl⟩ := List.mem_map.mp member
        exact head other occurs same
      have taken : key ∉ (rest.take n).map Retained.key := fun member =>
        absent (((List.take_sublist n rest).map _).subset member)
      have dropped : ∀ l : List (Retained α), without key (entry :: l) = without key l := by
        simp [without, same]
      rw [List.take_succ_cons, dropped, dropped, without_eq_self absent, without_eq_self taken]
    · have kept : ∀ l : List (Retained α), without key (entry :: l) = entry :: without key l := by
        simp [without, same]
      cases n with
      | zero => simp [Ne.symm same] at present
      | succ n =>
        rw [List.take_succ_cons, List.map_cons, List.mem_cons] at present
        rw [List.take_succ_cons, kept, kept, List.take_succ_cons,
          ih tail (present.resolve_left (Ne.symm same))]

theorem take_without {n : Nat} (absent : key ∉ (entries.take n).map Retained.key) :
    (without key entries).take n = entries.take n := by
  conv_lhs => rw [← List.take_append_drop n entries]
  have split : without key (entries.take n ++ entries.drop n) =
      entries.take n ++ without key (entries.drop n) := by
    rw [without, List.filter_append]
    exact congrArg (· ++ _) (without_eq_self absent)
  rw [split]
  by_cases long : n ≤ entries.length
  · rw [List.take_append_of_le_length (by simp [long]), List.take_take, Nat.min_self]
  · have none : entries.drop n = [] := List.drop_eq_nil_of_le (by omega)
    simp [none, without]

theorem oldest?_concat (sorted : NewestFirst (entries ++ [entry])) :
    oldest? (entries ++ [entry]) = some entry := by
  induction entries with
  | nil => rfl
  | cons other rest ih =>
    obtain ⟨head, tail⟩ := List.pairwise_cons.mp sorted
    simp only [List.cons_append, oldest?, ih tail]
    rw [if_pos (head entry (by simp))]

/-- Of entries in order the last ones are evicted. -/
theorem evict_eq_take {rounds : Nat} (enough : entries.length ≤ rounds) (room : capacity ≠ 0)
    (sorted : NewestFirst entries) (distinct : OnePerKey entries) :
    evict capacity rounds entries = entries.take (capacity - 1) := by
  induction rounds generalizing entries with
  | zero =>
    simp [List.length_eq_zero_iff.mp (Nat.le_zero.mp enough), evict]
  | succ rounds ih =>
    unfold evict
    split
    · rw [List.take_of_length_le (by omega)]
    · rcases List.eq_nil_or_concat entries with rfl | ⟨front, last, rfl⟩
      · exact absurd (Nat.pos_of_ne_zero room) ‹_›
      · rw [List.concat_eq_append] at *
        obtain ⟨front_distinct, -, apart⟩ := List.pairwise_append.mp distinct
        have absent : last.key ∉ front.map Retained.key := by
          intro member
          obtain ⟨other, occurs, same⟩ := List.mem_map.mp member
          exact apart other occurs last List.mem_cons_self same
        have dropped : without last.key (front ++ [last]) = front := by
          rw [without, List.filter_append]
          simpa [without] using without_eq_self absent
        simp only [List.length_append, List.length_singleton] at *
        simp only [oldest?_concat sorted, dropped]
        rw [ih (by omega) (sorted.sublist (List.sublist_append_left _ _)) front_distinct,
          List.take_append_of_le_length (by omega)]

/-- The store holds what is fresh among the first `capacity` results put in last, in that order, and
nothing else that is fresh. -/
structure Reflects (s : Store α) (recent : List (Retained α)) (now : Nat) : Prop where
  size_le : s.size ≤ s.capacity
  distinct : OnePerKey s.entries
  fresh : s.entries.filter (s.isFresh now) = (recent.filter (s.isFresh now)).take s.capacity

theorem filter_fresh_later (until_ : now ≤ later) :
    (entries.filter (s.isFresh now)).filter (s.isFresh later) =
      entries.filter (s.isFresh later) := by
  rw [List.filter_filter]
  refine List.filter_congr ?_
  intro entry _
  simp only [isFresh, Bool.and_eq_left_iff_imp, decide_eq_true_eq]
  omega

theorem Reflects.until (reflects : Reflects s recent now) (sorted : NewestFirst recent)
    (order : now ≤ later) : Reflects s recent later := by
  refine ⟨reflects.size_le, reflects.distinct, ?_⟩
  rw [← filter_fresh_later order, reflects.fresh,
    filter_take _ (sorted.freshFirst.sublist List.filter_sublist), filter_fresh_later order]

theorem OnePerKey.find?_iff (distinct : OnePerKey s.entries) :
    s.find? key = some entry ↔ entry ∈ s.entries ∧ entry.key = key := by
  constructor
  · intro found
    exact ⟨List.mem_of_find?_eq_some found, by simpa using List.find?_some found⟩
  · rintro ⟨member, rfl⟩
    obtain ⟨front, back, split⟩ := List.append_of_mem member
    rw [find?, List.find?_eq_some_iff_append]
    refine ⟨by simp, front, back, split, ?_⟩
    intro other earlier
    rw [split, OnePerKey, List.pairwise_append] at distinct
    simpa using distinct.2.2 other earlier entry List.mem_cons_self

/-- A look-up gives back what is fresh, and nothing else. -/
theorem OnePerKey.get_eq_some_iff (distinct : OnePerKey s.entries) :
    (s.get now key).1 = some value ↔
      ∃ entry ∈ s.entries.filter (s.isFresh now), entry.key = key ∧ entry.value = value := by
  unfold Store.get
  split
  · rename_i entry found
    obtain ⟨member, same⟩ := distinct.find?_iff.mp found
    split
    · rename_i fresh
      constructor
      · rintro ⟨⟩
        exact ⟨entry, List.mem_filter.mpr ⟨member, fresh⟩, same, rfl⟩
      · rintro ⟨other, stored, also, rfl⟩
        have again := distinct.find?_iff.mpr ⟨(List.mem_filter.mp stored).1, also⟩
        rw [Option.some.inj (found.symm.trans again)]
    · rename_i stale
      constructor
      · rintro ⟨⟩
      · rintro ⟨other, stored, also, -⟩
        obtain ⟨stored, fresh⟩ := List.mem_filter.mp stored
        have again := distinct.find?_iff.mpr ⟨stored, also⟩
        exact absurd (Option.some.inj (found.symm.trans again) ▸ fresh) stale
  · rename_i missing
    constructor
    · rintro ⟨⟩
    · rintro ⟨other, stored, also, -⟩
      have found := distinct.find?_iff.mpr ⟨(List.mem_filter.mp stored).1, also⟩
      rw [missing] at found
      cases found

theorem Reflects.get (reflects : Reflects s recent now) (key : Text) :
    Reflects (s.get now key).2 recent now := by
  unfold Store.get
  split
  · rename_i entry found
    split
    · exact reflects
    · rename_i stale
      have fewer := without_sublist key s.entries
      refine ⟨fewer.length_le.trans reflects.size_le, reflects.distinct.sublist fewer, ?_⟩
      have absent : key ∉ (s.entries.filter (s.isFresh now)).map Retained.key := by
        intro member
        obtain ⟨other, occurs, same⟩ := List.mem_map.mp member
        obtain ⟨stored, fresh⟩ := List.mem_filter.mp occurs
        have again := reflects.distinct.find?_iff.mpr ⟨stored, same⟩
        exact stale (Option.some.inj (found.symm.trans again) ▸ fresh)
      calc (without key s.entries).filter (s.isFresh now)
          = without key (s.entries.filter (s.isFresh now)) := filter_without _
        _ = s.entries.filter (s.isFresh now) := without_eq_self absent
        _ = (recent.filter (s.isFresh now)).take s.capacity := reflects.fresh
  · exact reflects

/-- What is left of the store when a result is put in, beside that result. -/
theorem kept_eq {fresh : List (Retained α)} (room : capacity ≠ 0) (sorted : NewestFirst fresh)
    (distinct : OnePerKey fresh) :
    (if (fresh.take capacity).any (·.key = key) then without key (fresh.take capacity)
      else evict capacity (fresh.take capacity).length (fresh.take capacity)) =
    (without key fresh).take (capacity - 1) := by
  obtain ⟨n, rfl⟩ := Nat.exists_eq_succ_of_ne_zero room
  rw [Nat.succ_eq_add_one, Nat.add_sub_cancel]
  split
  · rename_i present
    refine without_take distinct ?_
    obtain ⟨entry, member, same⟩ := List.any_eq_true.mp present
    exact List.mem_map.mpr ⟨entry, member, of_decide_eq_true same⟩
  · rename_i absent
    have less : (fresh.take n).Sublist (fresh.take (n + 1)) :=
      List.take_sublist_take_left (Nat.le_succ n)
    have missing : key ∉ (fresh.take n).map Retained.key := by
      intro member
      obtain ⟨entry, occurs, same⟩ := List.mem_map.mp member
      exact absent (List.any_eq_true.mpr ⟨entry, less.subset occurs, decide_eq_true same⟩)
    rw [evict_eq_take (Nat.le_refl _) (Nat.succ_ne_zero n) (sorted.sublist (List.take_sublist _ _))
      (distinct.sublist (List.take_sublist _ _)), take_without missing, List.take_take]
    simp

theorem entries_insert (reflects : Reflects s recent now) (sorted : NewestFirst recent)
    (distinct : OnePerKey recent) (room : s.capacity ≠ 0) :
    (s.insert now key value).entries =
      ⟨key, now, value⟩ :: (without key (recent.filter (s.isFresh now))).take (s.capacity - 1) := by
  rw [← kept_eq room (sorted.sublist List.filter_sublist) (distinct.sublist List.filter_sublist),
    ← reflects.fresh]
  simp only [Store.insert, room, if_false]

/-- What is fresh after a result was put in are the first fresh ones with the new one in front. -/
theorem fresh_insert (reflects : Reflects s recent now) (sorted : NewestFirst recent)
    (distinct : OnePerKey recent) (room : s.capacity ≠ 0) :
    (s.insert now key value).entries.filter (s.isFresh now) =
      ((⟨key, now, value⟩ :: without key recent).filter (s.isFresh now)).take s.capacity := by
  have kept : ∀ l : List (Retained α), l.Sublist (recent.filter (s.isFresh now)) →
      l.filter (s.isFresh now) = l := by
    intro l part
    exact List.filter_eq_self.mpr fun other member => (List.mem_filter.mp (part.subset member)).2
  rw [entries_insert reflects sorted distinct room, List.filter_cons, List.filter_cons,
    filter_without, kept _ ((List.take_sublist _ _).trans (without_sublist _ _))]
  obtain ⟨n, size⟩ := Nat.exists_eq_succ_of_ne_zero room
  by_cases young : s.isFresh now ⟨key, now, value⟩ = true
  · rw [if_pos young, if_pos young, size]
    rfl
  · -- Without a lifetime nothing is fresh.
    have none : recent.filter (s.isFresh now) = [] := by
      refine List.filter_eq_nil_iff.mpr fun other _ => ?_
      simp only [Store.isFresh, decide_eq_true_eq] at young ⊢
      omega
    rw [if_neg young, if_neg young, none]
    simp [without]

theorem Reflects.insert (reflects : Reflects s recent now) (sorted : NewestFirst recent)
    (distinct : OnePerKey recent) (key : Text) (value : α) :
    Reflects (s.insert now key value) (⟨key, now, value⟩ :: without key recent) now := by
  by_cases room : s.capacity = 0
  · constructor
    · simpa [Store.insert, room] using reflects.size_le
    · simpa [Store.insert, room] using reflects.distinct
    · simpa [Store.insert, room] using reflects.fresh
  · have entries_eq : (s.insert now key value).entries = _ :=
      entries_insert reflects sorted distinct room
    have capacity_eq : (s.insert now key value).capacity = s.capacity := by
      simp [Store.insert, room]
    constructor
    · rw [capacity_eq, size, entries_eq, List.length_cons, List.length_take]
      omega
    · rw [entries_eq]
      refine List.pairwise_cons.mpr ⟨?_, ?_⟩
      · intro other member
        exact (mem_without.mp (List.mem_of_mem_take member)).2.symm
      · exact distinct.sublist
          ((List.take_sublist _ _).trans ((without_sublist _ _).trans List.filter_sublist))
    · have same : (s.insert now key value).isFresh now = s.isFresh now := by
        simp [Store.insert, room, Store.isFresh, funext_iff]
      rw [same, capacity_eq]
      exact fresh_insert reflects sorted distinct room

theorem insertions_sublist_append (history : List (Nat × Operation α))
    (operation : Nat × Operation α) :
    (insertions history).Sublist (insertions (history ++ [operation])) :=
  (List.sublist_append_left history [operation]).filterMap _

theorem Timely.of_append {operation : Nat × Operation α}
    (timely : Timely (history ++ [operation]) now) : Timely history operation.1 := by
  obtain ⟨before, -, order⟩ := List.pairwise_append.mp timely.inOrder
  exact ⟨before, fun other member => order other member operation List.mem_cons_self,
    timely.apart.sublist (insertions_sublist_append history operation)⟩

theorem Timely.newestFirst (timely : Timely history now) :
    NewestFirst (latest (insertions history).reverse) :=
  (List.pairwise_reverse.mpr timely.apart).sublist (latest_sublist _)

theorem run_reflects (lifetime capacity : Nat) (timely : Timely history now) :
    Reflects (run lifetime capacity history) (latest (insertions history).reverse) now := by
  induction history using List.reverseRecOn generalizing now with
  | nil => exact ⟨Nat.zero_le _, List.Pairwise.nil, by simp [insertions, latest, empty]⟩
  | append_singleton history operation ih =>
    have before := ih timely.of_append
    refine Reflects.until ?_ timely.newestFirst
      (timely.past operation (List.mem_append_right _ List.mem_cons_self))
    obtain ⟨time, key | ⟨key, value⟩⟩ := operation
    · simpa [perform] using before.get key
    · simpa [perform, latest] using
        before.insert timely.of_append.newestFirst (onePerKey_latest _) key value

theorem bounds_run (lifetime capacity : Nat) (history : List (Nat × Operation α)) :
    (run lifetime capacity history).lifetime = lifetime ∧
      (run lifetime capacity history).capacity = capacity := by
  induction history using List.reverseRecOn with
  | nil => exact ⟨rfl, rfl⟩
  | append_singleton history operation ih =>
    rw [run_append_singleton]
    obtain ⟨time, key | ⟨key, value⟩⟩ := operation
    · simp only [perform, get]
      split
      · split <;> exact ih
      · exact ih
    · simp only [perform, insert]
      split <;> exact ih

/-- A fresh result is among the first ones exactly if too few keys have come after it. -/
theorem mem_take_fresh_iff (sorted : NewestFirst (latest news)) (n : Nat) :
    entry ∈ ((latest news).filter (s.isFresh now)).take n ↔
      ∃ newer older, news = newer ++ entry :: older ∧ entry.key ∉ newer.map Retained.key ∧
        s.isFresh now entry = true ∧ (newer.map Retained.key).toFinset.card < n := by
  rw [← filter_take n sorted.freshFirst, List.mem_filter]
  constructor
  · rintro ⟨taken, fresh⟩
    obtain ⟨newer, older, rfl, absent⟩ := exists_of_mem_latest (List.mem_of_mem_take taken)
    refine ⟨newer, older, rfl, absent, fresh, ?_⟩
    obtain ⟨rest, same⟩ := latest_append absent older
    rw [same] at taken
    rw [← length_latest]
    by_contra many
    rw [List.take_append_of_le_length (Nat.not_lt.mp many)] at taken
    exact absent (key_mem_latest.mp (List.mem_map_of_mem (List.mem_of_mem_take taken)))
  · rintro ⟨newer, older, rfl, absent, fresh, few⟩
    obtain ⟨rest, same⟩ := latest_append absent older
    refine ⟨?_, fresh⟩
    rw [← length_latest] at few
    obtain ⟨m, rfl⟩ := Nat.exists_eq_add_of_lt few
    rw [same, Nat.add_assoc, List.take_length_add_append]
    exact List.mem_append_right _ List.mem_cons_self

/-- After any history the store holds no more than it may, and a look-up gives back the result that
was put in last for its key, as long as that is fresh and fewer than `capacity` other keys have been
put in since. -/
theorem get_run_iff (lifetime capacity : Nat) (timely : Timely history now) (key : Text)
    (value : α) : (run lifetime capacity history).size ≤ capacity ∧
      (((run lifetime capacity history).get now key).1 = some value ↔
        ∃ earlier storedAt later, insertions history = earlier ++ ⟨key, storedAt, value⟩ :: later ∧
          key ∉ later.map Retained.key ∧ now - storedAt < lifetime ∧
          (later.map Retained.key).toFinset.card < capacity) := by
  obtain ⟨lifetime_eq, capacity_eq⟩ := bounds_run lifetime capacity history
  have reflects := run_reflects lifetime capacity timely
  have same_keys (l : List (Retained α)) :
      (l.reverse.map Retained.key).toFinset = (l.map Retained.key).toFinset := by
    rw [List.map_reverse, List.toFinset_reverse]
  refine ⟨reflects.size_le.trans_eq capacity_eq, ?_⟩
  rw [reflects.distinct.get_eq_some_iff, reflects.fresh, capacity_eq]
  simp only [mem_take_fresh_iff timely.newestFirst, isFresh, lifetime_eq, decide_eq_true_eq]
  constructor
  · rintro ⟨⟨_, storedAt, _⟩, ⟨newer, older, split, absent, fresh, few⟩, rfl, rfl⟩
    refine ⟨older.reverse, storedAt, newer.reverse, ?_, ?_, fresh, by rwa [same_keys]⟩
    · simpa using congrArg List.reverse split
    · simpa using absent
  · rintro ⟨earlier, storedAt, later, split, absent, fresh, few⟩
    refine ⟨⟨key, storedAt, value⟩, ⟨later.reverse, earlier.reverse, ?_, ?_, fresh, ?_⟩, rfl, rfl⟩
    · simp [split]
    · simpa using absent
    · rwa [same_keys]

/-- There is room for two results: the first is put in again before a third one comes, so the second
goes. -/
def turnover : List (Nat × Operation Nat) :=
  [(0, .insert "a" 1), (1, .insert "b" 2), (2, .get "a"), (3, .insert "a" 3), (3, .get "b"),
    (5, .insert "c" 4), (6, .get "b")]

theorem renewed_result_outlives_later_one :
    Timely turnover 9 ∧ (run 7 2 turnover).size ≤ 2 ∧
      ((run 7 2 turnover).get 9 "a").1 = some 3 ∧ ((run 7 2 turnover).get 9 "b").1 = none := by
  have timely : Timely turnover 9 := ⟨by decide, by decide, by decide⟩
  obtain ⟨few, found⟩ := get_run_iff 7 2 timely "a" 3
  refine ⟨timely, few, found.mpr ?_, by decide⟩
  exact ⟨[⟨"a", 0, 1⟩, ⟨"b", 1, 2⟩], 3, [⟨"c", 5, 4⟩], rfl, by decide, by decide, by decide⟩

end CodeWiki.Store
