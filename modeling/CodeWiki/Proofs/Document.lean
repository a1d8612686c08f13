import CodeWiki.Document.Json
import CodeWiki.Proofs.Json.Record
import CodeWiki.Proofs.Json.RoundTrip
import CodeWiki.Proofs.Snapshot

/-! Documents as text: what is written is read back, in either layout, unless the sections are
nested deeper than a reader follows them or the number of files is larger than a reader can hold. No
text gives such a document, so every document that was read can be written and read again. -/
namespace CodeWiki

namespace Origin

theorem wellFormed_toJson (o : Origin) : o.toJson.WellFormed := by
  apply Json.wellFormed_ofFields
  have commit : (Json.ofOption Json.text o.commit).WellFormed := by
    cases o.commit with
    | none => exact .null
    | some commit => exact .string _
  simp only [List.forall_mem_cons]
  exact ⟨.string _, .string _, commit, .string _, .number (Json.isNumeral_ofNat _),
    List.forall_mem_nil _⟩

theorem ofJson?_toJson {o : Origin} (fits : o.fileCount < UInt64.size) (depth : Nat) :
    ofJson? (depth + 1) o.toJson = some o := by
  have record : Json.record? fields o.toJson = some [some (.text o.reference), some (.text o.slug),
      some (.ofOption .text o.commit), some (.text o.generatedAt), some (.nat o.fileCount)] := rfl
  have commit : Json.option? Json.text? (some (.ofOption .text o.commit)) = some o.commit := by
    cases o.commit <;> rfl
  simp [ofJson?, record, commit, Json.nat?_nat fits, Json.text, Json.text?]

theorem fileCount_lt {depth : Nat} {json : Json} {o : Origin} (read : ofJson? depth json = some o) :
    o.fileCount < UInt64.size := by
  cases depth with
  | zero => contradiction
  | succ depth =>
    obtain ⟨values, _, read⟩ := Option.bind_eq_some_iff.mp read
    split at read
    · simp only [Option.bind_eq_bind, Option.bind_eq_some_iff, Option.some.injEq] at read
      obtain ⟨_, _, _, _, _, _, _, _, n, count, rfl⟩ := read
      exact Json.lt_of_nat? count
    · contradiction

end Origin

namespace WikiSection

mutual

/-- How many sections lie one inside the other, at most. -/
def height : WikiSection → Nat
  | .mk _ _ _ none => 1
  | .mk _ _ _ (some children) => heights children + 1

def heights : List WikiSection → Nat
  | [] => 0
  | s :: rest => max s.height (heights rest)

end

theorem two_mul_heights_le_iff {sections : List WikiSection} {n : Nat} :
    2 * heights sections ≤ n ↔ ∀ s ∈ sections, 2 * s.height ≤ n := by
  induction sections with
  | nil => simp [heights]
  | cons s sections ih =>
    rw [List.forall_mem_cons, ← ih, heights]
    omega

mutual

theorem wellFormed_toJson : ∀ s : WikiSection, s.toJson.WellFormed
  | .mk id title content none => by
    apply Json.wellFormed_ofFields
    simp only [List.forall_mem_cons]
    exact ⟨.string _, .string _, Json.wellFormed_texts content, List.forall_mem_nil _⟩
  | .mk id title content (some children) => by
    apply Json.wellFormed_ofFields
    simp only [List.forall_mem_cons]
    exact ⟨.string _, .string _, Json.wellFormed_texts content,
      .array (wellFormed_toJsons children), List.forall_mem_nil _⟩

theorem wellFormed_toJsons : ∀ sections, ∀ json ∈ toJsons sections, json.WellFormed
  | [] => List.forall_mem_nil _
  | s :: rest => List.forall_mem_cons.mpr ⟨wellFormed_toJson s, wellFormed_toJsons rest⟩

end

mutual

theorem ofJson?_toJson : ∀ (s : WikiSection) (depth : Nat), 2 * s.height ≤ depth →
    ofJson? depth s.toJson = some s
  | .mk id title content none, depth, fits => by
    rw [height] at fits
    obtain ⟨depth, rfl⟩ : ∃ n, depth = n + 2 := ⟨depth - 2, by omega⟩
    have record : Json.record? fields (toJson (.mk id title content none)) =
      some [some (.text id), some (.text title), some (.texts content), none] := rfl
    simp [ofJson?, record, Json.text?, Json.text, Json.list?_texts]
  | .mk id title content (some children), depth, fits => by
    rw [height] at fits
    obtain ⟨depth, rfl⟩ : ∃ n, depth = n + 2 := ⟨depth - 2, by omega⟩
    have record : Json.record? fields (toJson (.mk id title content (some children))) =
      some [some (.text id), some (.text title), some (.texts content),
        some (.array (toJsons children))] := rfl
    have inner := mapM_toJsons children depth (by omega)
    simp [ofJson?, record, Json.text?, Json.text, Json.list?_texts, inner]

theorem mapM_toJsons : ∀ (sections : List WikiSection) (depth : Nat), 2 * heights sections ≤ depth →
    (toJsons sections).mapM (ofJson? depth) = some sections
  | [], _, _ => rfl
  | s :: rest, depth, fits => by
    rw [heights] at fits
    simp [toJsons, List.mapM_cons, ofJson?_toJson s depth (by omega),
      mapM_toJsons rest depth (by omega)]

end

/-- A reader follows sections two levels at a time, through the list and through the section. -/
theorem height_le {depth : Nat} {json : Json} {s : WikiSection}
    (read : ofJson? depth json = some s) : 2 * s.height ≤ depth := by
  induction depth using Nat.strongRecOn generalizing json s with
  | ind depth ih =>
    cases depth with
    | zero => contradiction
    | succ depth =>
      rw [ofJson?] at read
      obtain ⟨values, _, read⟩ := Option.bind_eq_some_iff.mp read
      split at read
      · obtain ⟨id, _, read⟩ := Option.bind_eq_some_iff.mp read
        obtain ⟨title, _, read⟩ := Option.bind_eq_some_iff.mp read
        obtain ⟨content, listed, read⟩ := Option.bind_eq_some_iff.mp read
        -- The paragraphs are a list themselves, so there is a level left in any case.
        obtain ⟨depth, rfl, _⟩ := Json.exists_of_list? listed
        split at read
        · cases read
          rw [height]
          omega
        · cases read
          rw [height]
          omega
        · obtain ⟨children, inner, same⟩ := Option.bind_eq_some_iff.mp read
          cases same
          have bound : 2 * heights children ≤ depth := by
            apply two_mul_heights_le_iff.mpr
            intro child member
            obtain ⟨item, found⟩ := exists_of_mapM inner child member
            exact ih depth (by omega) found
          rw [height]
          omega
        · contradiction
      · contradiction

end WikiSection

namespace Snapshot

theorem wellFormed_toJson (s : Snapshot) : s.toJson.WellFormed := by
  apply Json.wellFormed_ofFields
  intro field among
  obtain ⟨entry, _, rfl⟩ := List.mem_map.mp among
  exact .string _

theorem ofJson?_toJson (s : Snapshot) (depth : Nat) : ofJson? (depth + 1) s.toJson = some s := by
  rw [toJson, Json.ofFields, List.map_map, ofJson?, mapM_map_of_undone]
  · exact congrArg some s.ofList_entries
  · exact fun entry _ => rfl

end Snapshot

namespace Document

/-- What a reader can hold: a number of files below `2^64`, and sections that are not nested too
deep. The document and its list of sections are two levels, and every section takes two, so that
sections may lie 62 deep. -/
structure WithinLimits (d : Document) : Prop where
  fileCount : d.origin.fileCount < UInt64.size
  nesting : 2 + 2 * WikiSection.heights d.sections ≤ Json.maxDepth

theorem wellFormed_toJson (d : Document) : d.toJson.WellFormed := by
  apply Json.wellFormed_ofFields
  simp only [List.forall_mem_cons]
  exact ⟨d.origin.wellFormed_toJson, .array (WikiSection.wellFormed_toJsons d.sections),
    d.files.wellFormed_toJson, List.forall_mem_nil _⟩

theorem ofJson?_toJson {d : Document} {depth : Nat} (count : d.origin.fileCount < UInt64.size)
    (nesting : 2 + 2 * WikiSection.heights d.sections ≤ depth) :
    ofJson? depth d.toJson = some d := by
  obtain ⟨depth, rfl⟩ : ∃ n, depth = n + 2 := ⟨depth - 2, by omega⟩
  have record : Json.record? fields d.toJson = some [some d.origin.toJson,
    some (.array (WikiSection.toJsons d.sections)), some d.files.toJson] := rfl
  have sections := WikiSection.mapM_toJsons d.sections depth (by omega)
  simp [ofJson?, record, Origin.ofJson?_toJson count, Json.list?, sections, Snapshot.ofJson?_toJson]

theorem bounds_of_ofJson? {depth : Nat} {json : Json} {d : Document}
    (read : ofJson? depth json = some d) :
    d.origin.fileCount < UInt64.size ∧ 2 + 2 * WikiSection.heights d.sections ≤ depth := by
  cases depth with
  | zero => contradiction
  | succ depth =>
    obtain ⟨values, _, read⟩ := Option.bind_eq_some_iff.mp read
    split at read
    · obtain ⟨origin, count, read⟩ := Option.bind_eq_some_iff.mp read
      obtain ⟨sections, listed, read⟩ := Option.bind_eq_some_iff.mp read
      obtain ⟨files, _, same⟩ := Option.bind_eq_some_iff.mp read
      cases same
      obtain ⟨depth, rfl, each⟩ := Json.exists_of_list? listed
      have bound : 2 * WikiSection.heights sections ≤ depth := by
        apply WikiSection.two_mul_heights_le_iff.mpr
        intro s member
        obtain ⟨item, found⟩ := each s member
        exact WikiSection.height_le found
      constructor
      · exact Origin.fileCount_lt count
      · change 2 + 2 * WikiSection.heights sections ≤ depth + 1 + 1
        omega
    · contradiction

theorem withinLimits_of_read? {t : Text} {d : Document} (read : read? t = some d) :
    d.WithinLimits := by
  obtain ⟨json, _, read⟩ := Option.bind_eq_some_iff.mp read
  obtain ⟨count, nesting⟩ := bounds_of_ofJson? read
  exact ⟨count, nesting⟩

theorem read?_write {layout : Json.Layout} (blanks : layout.IsBlank) (d : Document) :
    read? (d.toJson.write layout 0) = some d ↔ d.WithinLimits := by
  constructor
  · exact withinLimits_of_read?
  · intro limits
    rw [read?, Json.read?_write d.wellFormed_toJson blanks]
    exact ofJson?_toJson limits.fileCount limits.nesting

/-- A document is read back from either of its texts exactly if it is within the limits; so what was
read from any text at all stays as it is when it is written and read again. -/
theorem read_back_iff (d : Document) :
    (read? d.compact = some d ↔ d.WithinLimits) ∧ (read? d.indented = some d ↔ d.WithinLimits) ∧
      ∀ t, read? t = some d → read? d.compact = some d ∧ read? d.indented = some d := by
  have compact := read?_write Json.Layout.isBlank_compact d
  have indented := read?_write Json.Layout.isBlank_indented d
  refine ⟨compact, indented, fun t read => ?_⟩
  have limits := withinLimits_of_read? read
  exact ⟨compact.mpr limits, indented.mpr limits⟩

/-- Records as arrays, an escape that is not needed, files in another order, and sections with and
without subsections or with an empty list of them. -/
theorem other_spelling_read_back :
    let d : Document := {
      origin := ⟨"", "r", none, "1", 2⟩
      sections := [.mk "s" "" ["x"] (some [.mk "a" "" [] none, .mk "b" "" [] (some [])])]
      files := ⟨[("a", ""), ("b", "")], by decide⟩ }
    let t : Text := "[[\"\",\"r\",null,\"1\",2], [[\"s\",\"\",[\"\\u0078\"],".toList ++
      "[[\"a\",\"\",[],null],[\"b\",\"\",[],[]]]]], \x7b\"b\":\"\",\"a\":\"\"\x7d]".toList
    read? t = some d ∧ d.WithinLimits ∧ read? d.compact = some d ∧ read? d.indented = some d := by
  intro d t
  have read : read? t = some d := by
    unfold t d
    decide +kernel
  obtain ⟨compact, _, again⟩ := read_back_iff d
  exact ⟨read, compact.mp (again t read).1, again t read⟩

end Document

end CodeWiki
