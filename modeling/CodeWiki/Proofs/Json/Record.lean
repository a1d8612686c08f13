import CodeWiki.Json.Record
import CodeWiki.Proofs.Json.RoundTrip

/-! Records and lists of values: what their parts must be for the text to be read back, and what is
known of a list and of a number that were read. -/
namespace CodeWiki

/-- What is gained item by item from written items are the items themselves. -/
theorem mapM_map_of_undone {write : α → β} {read : β → Option α} {l : List α}
    (undone : ∀ a ∈ l, read (write a) = some a) : (l.map write).mapM read = some l := by
  induction l with
  | nil => rfl
  | cons a l ih =>
    obtain ⟨first, later⟩ := List.forall_mem_cons.mp undone
    simp [List.mapM_cons, first, ih later]

theorem exists_of_mapM {read : α → Option β} {l : List α} {gained : List β}
    (each : l.mapM read = some gained) : ∀ b ∈ gained, ∃ a, read a = some b := by
  induction l generalizing gained with
  | nil =>
    cases each
    exact List.forall_mem_nil _
  | cons a l ih =>
    rw [List.mapM_cons] at each
    obtain ⟨b, first, each⟩ := Option.bind_eq_some_iff.mp each
    obtain ⟨others, later, same⟩ := Option.bind_eq_some_iff.mp each
    cases same
    rw [List.forall_mem_cons]
    exact ⟨⟨a, first⟩, ih later⟩

namespace Json

theorem wellFormed_ofFields {fields : List (Text × Json)}
    (each : ∀ field ∈ fields, field.2.WellFormed) : (ofFields fields).WellFormed := by
  apply WellFormed.object
  intro member among
  obtain ⟨field, listed, rfl⟩ := List.mem_map.mp among
  exact each field listed

theorem wellFormed_texts (ts : List Text) : (texts ts).WellFormed := by
  apply WellFormed.array
  intro item among
  obtain ⟨t, _, rfl⟩ := List.mem_map.mp among
  exact WellFormed.string (some t)

theorem nat?_nat {n : Nat} (fits : n < UInt64.size) : nat? (nat n) = some n := by
  rw [nat, nat?, natural?_ofNat, if_pos fits]

theorem lt_of_nat? {json : Json} {n : Nat} (read : nat? json = some n) : n < UInt64.size := by
  cases json with
  | number numeral => exact natural?_lt read
  | _ => contradiction

theorem list?_texts (depth : Nat) (ts : List Text) :
    list? (fun _ => text?) (depth + 1) (texts ts) = some ts :=
  mapM_map_of_undone fun _ _ => rfl

theorem exists_of_list? {read : Nat → Json → Option α} {depth : Nat} {json : Json} {gained : List α}
    (listed : list? read depth json = some gained) :
    ∃ inner, depth = inner + 1 ∧ ∀ a ∈ gained, ∃ item, read inner item = some a := by
  unfold list? at listed
  split at listed
  · exact ⟨_, rfl, exists_of_mapM listed⟩
  · contradiction

end Json

end CodeWiki
