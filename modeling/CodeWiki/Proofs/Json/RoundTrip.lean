import CodeWiki.Proofs.Json.Scalar

/-! A value reads back from its own text, in every layout whose gaps are blank. What is read is the
value as written: the digits of its numbers, and the order and the repetitions of its members. -/
namespace CodeWiki.Json

variable {layout : Layout} {blank t u v w x y rest : Text} {c : Char} {fuel depth : Nat}

structure Layout.IsBlank (layout : Layout) : Prop where
  gap : ∀ depth, ∀ c ∈ layout.gap depth, isBlankChar c = true
  afterColon : ∀ c ∈ layout.afterColon, isBlankChar c = true

theorem Layout.isBlank_compact : Layout.compact.IsBlank where
  gap _ _ member := absurd member List.not_mem_nil
  afterColon _ member := absurd member List.not_mem_nil

theorem Layout.isBlank_indented : Layout.indented.IsBlank where
  gap depth c member := by
    rcases List.mem_cons.mp member with rfl | member
    · rfl
    · rw [List.eq_of_mem_replicate member]
      rfl
  afterColon c member := by
    rw [List.mem_singleton.mp member]
    rfl

/-- Values whose numbers are numerals. -/
inductive WellFormed : Json → Prop
  | null : WellFormed null
  | bool (value : Bool) : WellFormed (bool value)
  | number {numeral : Text} (read : IsNumeral numeral) : WellFormed (number numeral)
  | string (content : JsonString) : WellFormed (string content)
  | array {items : List Json} (each : ∀ item ∈ items, WellFormed item) : WellFormed (array items)
  | object {members : List (JsonString × Json)} (each : ∀ member ∈ members, WellFormed member.2) :
    WellFormed (object members)

theorem skipBlank_append (all : ∀ c ∈ blank, isBlankChar c = true) (t : Text) :
    skipBlank (blank ++ t) = skipBlank t :=
  List.dropWhile_append_of_pos all

theorem skipBlank_cons (solid : isBlankChar c = false) (t : Text) : skipBlank (c :: t) = c :: t :=
  List.dropWhile_cons_of_neg (by simp [solid])

theorem readValue?_skip (all : ∀ c ∈ blank, isBlankChar c = true) :
    readValue? fuel (blank ++ t) = readValue? fuel t := by
  cases fuel with
  | zero => rfl
  | succ fuel => rw [readValue?, readValue?, skipBlank_append all]

theorem readItems?_skip (all : ∀ c ∈ blank, isBlankChar c = true) :
    readItems? fuel (blank ++ t) = readItems? fuel t := by
  cases fuel with
  | zero => rfl
  | succ fuel => rw [readItems?, readItems?, readValue?_skip all]

theorem readMembers?_skip (all : ∀ c ∈ blank, isBlankChar c = true) :
    readMembers? fuel (blank ++ t) = readMembers? fuel t := by
  cases fuel with
  | zero => rfl
  | succ fuel => rw [readMembers?, readMembers?, skipBlank_append all]

theorem endsNumeral_skip (all : ∀ c ∈ blank, isBlankChar c = true) (ends : EndsNumeral t) :
    EndsNumeral (blank ++ t) := by
  cases blank with
  | nil => exact ends
  | cons c blank =>
    have blankChar := all c List.mem_cons_self
    simp only [isBlankChar, Bool.or_eq_true, decide_eq_true_eq] at blankChar
    rcases blankChar with ((rfl | rfl) | rfl) | rfl <;> exact endsNumeral_cons (by decide) _

/-- The characters that a numeral cannot begin with, though something else can. -/
def otherStarts : List Char := [' ', '\n', '\t', '\r', '"', '[', ']', '\x7b', '\x7d', 'n', 't', 'f']

theorem IsNumeral.start (numeral : IsNumeral t) : ∃ c u, t = c :: u ∧ c ∉ otherStarts := by
  obtain ⟨c, u, rfl, first⟩ := numeral.head
  have all : otherStarts.all (fun d => d ≠ '-' && !d.isDigit) = true := by decide
  refine ⟨c, u, rfl, fun member => ?_⟩
  have other := List.all_eq_true.mp all c member
  simp only [Bool.and_eq_true, decide_eq_true_eq, Bool.not_eq_true'] at other
  rcases first with sign | digit
  · exact other.1 sign
  · exact absurd digit (by simp [other.2])

theorem readValue?_numeral (numeral : IsNumeral t) (ends : EndsNumeral rest) :
    readValue? (fuel + 1) (t ++ rest) = some (number t, rest) := by
  have read := numeral rest ends
  obtain ⟨c, u, rfl, other⟩ := numeral.start
  simp only [otherStarts, List.mem_cons, List.not_mem_nil, or_false, not_or] at other
  have solid : isBlankChar c = false := by simp [isBlankChar, other]
  rw [readValue?, List.cons_append, skipBlank_cons solid]
  split <;> simp_all

section Reading

variable {item value : Json} {items : List Json} {key : JsonString}
  {members : List (JsonString × Json)}

attribute [local simp] readValue? readItems? readMembers?

theorem readValue?_string (read : readString? t = some (key, rest)) :
    readValue? (fuel + 1) ('"' :: t) = some (string key, rest) := by
  simp [skipBlank_cons (rfl : isBlankChar '"' = false), read]

theorem readValue?_array (inside : skipBlank t = u) (occupied : u.head? ≠ some ']')
    (read : readItems? fuel u = some (items, rest)) :
    readValue? (fuel + 1) ('[' :: t) = some (array items, rest) := by
  rw [readValue?, skipBlank_cons rfl]
  simp only [inside]
  split
  · exact absurd rfl occupied
  · rw [read, Option.map_some]

theorem readValue?_object (inside : skipBlank t = u) (quoted : u.head? = some '"')
    (read : readMembers? fuel u = some (members, rest)) :
    readValue? (fuel + 1) ('\x7b' :: t) = some (object members, rest) := by
  rw [readValue?, skipBlank_cons rfl]
  simp only [inside]
  split
  · exact absurd (Option.some.inj quoted) (by decide)
  · rw [read, Option.map_some]

theorem readItems?_last (first : readValue? fuel t = some (item, u))
    (closed : skipBlank u = ']' :: rest) : readItems? (fuel + 1) t = some ([item], rest) := by
  simp [first, closed]

theorem readItems?_more (first : readValue? fuel t = some (item, u))
    (comma : skipBlank u = ',' :: v) (others : readItems? fuel v = some (items, rest)) :
    readItems? (fuel + 1) t = some (item :: items, rest) := by
  simp [first, comma, others]

theorem readMembers?_last (quote : skipBlank t = '"' :: u) (name : readString? u = some (key, v))
    (colon : skipBlank v = ':' :: w) (content : readValue? fuel w = some (value, x))
    (closed : skipBlank x = '\x7d' :: rest) :
    readMembers? (fuel + 1) t = some ([(key, value)], rest) := by
  simp [quote, name, colon, content, closed]

theorem readMembers?_more (quote : skipBlank t = '"' :: u) (name : readString? u = some (key, v))
    (colon : skipBlank v = ':' :: w) (content : readValue? fuel w = some (value, x))
    (comma : skipBlank x = ',' :: y) (others : readMembers? fuel y = some (members, rest)) :
    readMembers? (fuel + 1) t = some ((key, value) :: members, rest) := by
  simp [quote, name, colon, content, comma, others]

end Reading

/-- Whether a value is read back from its text at any depth, whatever follows that ends a numeral.
More fuel than there are characters is enough, as every level and every item has a character of its
own. -/
def ReadsBack (layout : Layout) (value : Json) : Prop :=
  ∀ depth fuel rest, (write layout depth value).length < fuel → EndsNumeral rest →
    readValue? fuel (write layout depth value ++ rest) = some (value, rest)

theorem readsBack_of_succ {value : Json}
    (back : ∀ depth fuel rest, (write layout depth value).length ≤ fuel → EndsNumeral rest →
      readValue? (fuel + 1) (write layout depth value ++ rest) = some (value, rest)) :
    ReadsBack layout value := by
  rintro depth (_ | fuel) rest enough ends
  · contradiction
  · exact back depth fuel rest (Nat.le_of_lt_succ enough) ends

/-- After the first of a row of items come the others, up to the bracket that closes the row. -/
theorem readItems?_write {first : Json} {items : List Json} (blanks : layout.IsBlank)
    (closing : ∀ c ∈ blank, isBlankChar c = true)
    (each : ∀ item ∈ first :: items, ReadsBack layout item)
    (enough : (write layout depth first ++ writeItems layout depth items).length + 1 < fuel) :
    readItems? fuel (write layout depth first ++ (writeItems layout depth items ++
      (blank ++ ']' :: rest))) = some (first :: items, rest) := by
  induction items generalizing first fuel with
  | nil =>
    obtain ⟨fuel, rfl⟩ : ∃ n, fuel = n + 1 := ⟨fuel - 1, by omega⟩
    rw [writeItems, List.append_nil] at enough
    rw [writeItems, List.nil_append]
    apply readItems?_last
    · apply each first List.mem_cons_self depth fuel _ (by omega)
      exact endsNumeral_skip closing (endsNumeral_cons (by rfl) rest)
    · rw [skipBlank_append closing, skipBlank_cons rfl]
  | cons next items ih =>
    obtain ⟨fuel, rfl⟩ : ∃ n, fuel = n + 1 := ⟨fuel - 1, by omega⟩
    obtain ⟨back, later⟩ := List.forall_mem_cons.mp each
    simp only [writeItems, List.length_append, List.length_cons] at enough ih
    simp only [writeItems, List.append_assoc, List.cons_append, List.nil_append]
    apply readItems?_more
    · apply back depth fuel _ (by omega)
      exact endsNumeral_cons (by rfl) _
    · exact skipBlank_cons rfl _
    · rw [readItems?_skip (blanks.gap depth)]
      exact ih later (by omega)

/-- A member with its key, as it stands between the gaps. -/
def writeMember (layout : Layout) (depth : Nat) (key : JsonString) (value : Json) : Text :=
  writeString key ++ ':' :: (layout.afterColon ++ write layout depth value)

theorem write_object_cons (layout : Layout) (depth : Nat) (key : JsonString) (value : Json)
    (members : List (JsonString × Json)) :
    write layout depth (object ((key, value) :: members)) =
      '\x7b' :: (layout.gap (depth + 1) ++ (writeMember layout (depth + 1) key value ++
        (writeMembers layout (depth + 1) members ++ (layout.gap depth ++ ['\x7d'])))) := by
  simp [write, writeMember]

theorem writeMembers_cons (layout : Layout) (depth : Nat) (key : JsonString) (value : Json)
    (members : List (JsonString × Json)) :
    writeMembers layout depth ((key, value) :: members) =
      ',' :: (layout.gap depth ++ (writeMember layout depth key value ++
        writeMembers layout depth members)) := by
  simp [writeMembers, writeMember]

theorem writeMember_read {value : Json} (blanks : layout.IsBlank) (key : JsonString)
    (back : ReadsBack layout value) (enough : (writeMember layout depth key value).length ≤ fuel)
    (ends : EndsNumeral rest) :
    ∃ u v w, skipBlank (writeMember layout depth key value ++ rest) = '"' :: u ∧
      readString? u = some (key, v) ∧ skipBlank v = ':' :: w ∧
      readValue? fuel w = some (value, rest) := by
  obtain ⟨body, written, read⟩ := readString?_written key
  simp only [writeMember, written, List.append_assoc, List.cons_append, List.length_append,
    List.length_cons] at enough ⊢
  refine ⟨_, _, _, skipBlank_cons rfl _, read _, skipBlank_cons rfl _, ?_⟩
  rw [readValue?_skip blanks.afterColon]
  exact back depth fuel rest (by omega) ends

theorem readMembers?_write {key : JsonString} {value : Json} {members : List (JsonString × Json)}
    (blanks : layout.IsBlank) (closing : ∀ c ∈ blank, isBlankChar c = true)
    (each : ∀ member ∈ (key, value) :: members, ReadsBack layout member.2)
    (enough :
      (writeMember layout depth key value ++ writeMembers layout depth members).length < fuel) :
    readMembers? fuel (writeMember layout depth key value ++ (writeMembers layout depth members ++
      (blank ++ '\x7d' :: rest))) = some ((key, value) :: members, rest) := by
  induction members generalizing key value fuel with
  | nil =>
    obtain ⟨fuel, rfl⟩ : ∃ n, fuel = n + 1 := ⟨fuel - 1, by omega⟩
    have ends : EndsNumeral (blank ++ '\x7d' :: rest) :=
      endsNumeral_skip closing (endsNumeral_cons (by rfl) rest)
    rw [writeMembers, List.append_nil] at enough
    obtain ⟨u, v, w, quote, name, colon, content⟩ :=
      writeMember_read blanks key (each (key, value) List.mem_cons_self)
        (Nat.le_of_lt_succ enough) ends
    rw [writeMembers, List.nil_append]
    apply readMembers?_last quote name colon content
    rw [skipBlank_append closing, skipBlank_cons rfl]
  | cons next members ih =>
    obtain ⟨fuel, rfl⟩ : ∃ n, fuel = n + 1 := ⟨fuel - 1, by omega⟩
    obtain ⟨back, later⟩ := List.forall_mem_cons.mp each
    obtain ⟨key', value'⟩ := next
    simp only [writeMembers_cons, List.length_append, List.length_cons] at enough ih
    simp only [writeMembers_cons, List.append_assoc, List.cons_append]
    have short : (writeMember layout depth key value).length ≤ fuel := by omega
    have ends : EndsNumeral (',' :: (layout.gap depth ++ (writeMember layout depth key' value' ++
      (writeMembers layout depth members ++ (blank ++ '\x7d' :: rest))))) := endsNumeral_cons rfl _
    obtain ⟨u, v, w, quote, name, colon, content⟩ := writeMember_read blanks key back short ends
    apply readMembers?_more quote name colon content
    · exact skipBlank_cons rfl _
    · rw [readMembers?_skip (blanks.gap depth)]
      exact ih later (by omega)

theorem WellFormed.start {value : Json} (proper : value.WellFormed) (layout : Layout)
    (depth : Nat) : ∃ c u, write layout depth value = c :: u ∧ isBlankChar c = false ∧ c ≠ ']' := by
  cases proper with
  | null => exact ⟨'n', "ull", rfl, rfl, by decide⟩
  | bool value =>
    cases value with
    | false => exact ⟨'f', "alse", rfl, rfl, by decide⟩
    | true => exact ⟨'t', "rue", rfl, rfl, by decide⟩
  | number numeral =>
    obtain ⟨c, u, rfl, other⟩ := numeral.start
    simp only [otherStarts, List.mem_cons, List.not_mem_nil, or_false, not_or] at other
    exact ⟨c, u, by rw [write], by simp [isBlankChar, other], other.2.2.2.2.2.2.1⟩
  | string content =>
    obtain ⟨body, written, _⟩ := readString?_written content
    exact ⟨'"', body, written, rfl, by decide⟩
  | @array items each => cases items <;> exact ⟨'[', _, rfl, rfl, by decide⟩
  | @object members each => cases members <;> exact ⟨'\x7b', _, rfl, rfl, by decide⟩

theorem readsBack_array {items : List Json} (blanks : layout.IsBlank)
    (proper : ∀ item ∈ items, item.WellFormed) (each : ∀ item ∈ items, ReadsBack layout item) :
    ReadsBack layout (array items) := by
  apply readsBack_of_succ
  intro depth fuel rest enough ends
  cases items with
  | nil => rfl
  | cons first items =>
    obtain ⟨c, u, begins, solid, occupied⟩ :=
      (proper first List.mem_cons_self).start layout (depth + 1)
    simp only [write, List.length_append, List.length_cons] at enough
    simp only [write, List.append_assoc, List.cons_append, List.nil_append]
    apply readValue?_array
    · apply (skipBlank_append (blanks.gap (depth + 1)) _).trans
      exact Text.dropWhile_of_head (by simp [begins, solid])
    · simpa [begins] using occupied
    · apply readItems?_write blanks (blanks.gap depth) each
      rw [List.length_append]
      omega

theorem readsBack_object {members : List (JsonString × Json)} (blanks : layout.IsBlank)
    (each : ∀ member ∈ members, ReadsBack layout member.2) : ReadsBack layout (object members) := by
  apply readsBack_of_succ
  intro depth fuel rest enough ends
  cases members with
  | nil => rfl
  | cons first members =>
    obtain ⟨key, value⟩ := first
    obtain ⟨body, written, read⟩ := readString?_written key
    rw [write_object_cons] at enough ⊢
    simp only [List.length_append, List.length_cons] at enough
    simp only [List.append_assoc, List.cons_append, List.nil_append]
    apply readValue?_object
    · apply (skipBlank_append (blanks.gap (depth + 1)) _).trans
      exact Text.dropWhile_of_head (by simp [writeMember, written, isBlankChar])
    · simp [writeMember, written]
    · apply readMembers?_write blanks (blanks.gap depth) each
      rw [List.length_append]
      omega

theorem WellFormed.readsBack {value : Json} (proper : value.WellFormed) (blanks : layout.IsBlank) :
    ReadsBack layout value := by
  induction proper with
  | null => exact readsBack_of_succ fun _ _ _ _ _ => rfl
  | bool value => cases value <;> exact readsBack_of_succ fun _ _ _ _ _ => rfl
  | number numeral => exact readsBack_of_succ fun _ _ _ _ ends => readValue?_numeral numeral ends
  | string content =>
    apply readsBack_of_succ
    intro depth fuel rest enough ends
    obtain ⟨body, written, read⟩ := readString?_written content
    rw [write, written, List.cons_append]
    exact readValue?_string (read rest)
  | array proper each => exact readsBack_array blanks proper each
  | object _ each => exact readsBack_object blanks each

/-- The text of a value, in whatever layout, holds that value and nothing else. -/
theorem read?_write {value : Json} (proper : value.WellFormed) (blanks : layout.IsBlank) :
    read? (write layout 0 value) = some value := by
  have read := proper.readsBack blanks 0 _ [] (Nat.lt_succ_self _) endsNumeral_nil
  rw [List.append_nil] at read
  rw [read?, read]
  rfl

end CodeWiki.Json
