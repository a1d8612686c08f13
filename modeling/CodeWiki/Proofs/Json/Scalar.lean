import CodeWiki.Json.Number
import CodeWiki.Json.Printer
import CodeWiki.Json.Reader
import CodeWiki.Proofs.Text.Trim

/-! Strings and numerals read back from JSON text. A string ends at its own quotation mark; a
numeral ends where nothing that follows can be part of it. -/
namespace CodeWiki.Json

variable {t u rest : Text} {c : Char} {n : Nat}

/-- The characters that have an escape of two characters, with its letter. -/
def shortEscapes : List (Char × Char) :=
  [('"', '"'), ('\\', '\\'), ('\x08', 'b'), ('\x0c', 'f'), ('\n', 'n'), ('\r', 'r'), ('\t', 't')]

/-- What a written character is read as. -/
def pieceOf (c : Char) : Piece :=
  if c.toNat < 0x20 ∧ c ∉ shortEscapes.map Prod.fst then .unit c.toNat else .char c

theorem escape_cases (c : Char) :
    (∃ letter, escape c = ['\\', letter] ∧ escaped? letter = some c ∧ letter ≠ 'u' ∧
      pieceOf c = .char c) ∨
    (c.toNat < 0x20 ∧ escape c = ['\\', 'u'] ++ controlDigits c ∧ pieceOf c = .unit c.toNat) ∨
    (c ≠ '"' ∧ c ≠ '\\' ∧ ¬ c.toNat < 0x20 ∧ escape c = [c] ∧ pieceOf c = .char c) := by
  by_cases short : c ∈ shortEscapes.map Prod.fst
  · have all : ∀ e ∈ shortEscapes, escape e.1 = ['\\', e.2] ∧ escaped? e.2 = some e.1 ∧ e.2 ≠ 'u' ∧
        pieceOf e.1 = .char e.1 := by decide
    obtain ⟨⟨c, letter⟩, member, rfl⟩ := List.mem_map.mp short
    exact .inl ⟨letter, all _ member⟩
  · have others := short
    simp only [shortEscapes, List.map_cons, List.map_nil, List.mem_cons, List.not_mem_nil, or_false,
      not_or] at others
    by_cases low : c.toNat < 0x20
    · exact .inr (.inl ⟨low, by simp [escape, low, others], by rw [pieceOf, if_pos ⟨low, short⟩]⟩)
    · exact .inr (.inr ⟨others.1, others.2.1, low, by simp [escape, low, others],
        by rw [pieceOf, if_neg fun both => low both.1]⟩)

theorem unit?_controlDigits (low : c.toNat < 0x20) :
    ∃ p q r s, controlDigits c = [p, q, r, s] ∧ unit? p q r s = some c.toNat := by
  have all : ∀ n < 0x20, (controlDigits (Char.ofNat n)).length = 4 ∧
      Radix.natural? 16 (controlDigits (Char.ofNat n)) = some n := by decide
  obtain ⟨four, value⟩ := all c.toNat low
  rw [Char.ofNat_toNat] at four value
  match digits : controlDigits c, four with
  | [p, q, r, s], _ => exact ⟨p, q, r, s, rfl, by rw [unit?, ← digits, value]⟩

theorem stringPieces?_escape (c : Char) (rest : Text) :
    stringPieces? (escape c ++ rest) =
      (stringPieces? rest).map fun (pieces, rest) => (pieceOf c :: pieces, rest) := by
  rcases escape_cases c with ⟨letter, written, stands, other, piece⟩ | ⟨low, written, piece⟩ |
    ⟨noQuote, noBackslash, high, written, piece⟩
  · rw [written, piece, List.cons_append, List.cons_append, List.nil_append, stringPieces?, stands]
    · cases stringPieces? rest <;> rfl
    · exact fun _ _ _ _ _ same _ => other same
  · obtain ⟨p, q, r, s, digits, value⟩ := unit?_controlDigits low
    rw [written, piece, digits]
    simp only [List.cons_append, List.nil_append, stringPieces?, value]
    cases stringPieces? rest <;> rfl
  · rw [written, piece, List.cons_append, List.nil_append, stringPieces?, if_neg high]
    · cases stringPieces? rest <;> rfl
    · exact noQuote
    · exact fun _ _ _ _ _ same _ => noBackslash same
    · exact fun _ _ same _ => noBackslash same

theorem pieceText?_unit (low : n < 0xD800) (pieces : List Piece) :
    pieceText? (.unit n :: pieces) = (pieceText? pieces).map (Char.ofNat n :: ·) := by
  have first : isHighSurrogate n = false := by
    rw [isHighSurrogate, decide_eq_false (by omega), Bool.false_and]
  have second : isLowSurrogate n = false := by
    rw [isLowSurrogate, decide_eq_false (by omega), Bool.false_and]
  match pieces with
  | [] | .char _ :: _ => simp [pieceText?, first, second]
  | .unit _ :: _ => simp [pieceText?, first, second]

theorem pieceText?_pieceOf (t : Text) : pieceText? (t.map pieceOf) = some t := by
  induction t with
  | nil => rfl
  | cons c t ih =>
    rcases escape_cases c with ⟨_, _, _, _, piece⟩ | ⟨low, _, piece⟩ | ⟨_, _, _, _, piece⟩
    · rw [List.map_cons, piece, pieceText?, ih, Option.map_some]
    · rw [List.map_cons, piece, pieceText?_unit (by omega), ih, Option.map_some, Char.ofNat_toNat]
    · rw [List.map_cons, piece, pieceText?, ih, Option.map_some]

theorem stringPieces?_written (t rest : Text) :
    stringPieces? (t.flatMap escape ++ '"' :: rest) = some (t.map pieceOf, rest) := by
  induction t with
  | nil => rfl
  | cons c t ih => rw [List.flatMap_cons, List.append_assoc, stringPieces?_escape, ih]; rfl

theorem readString?_written (content : JsonString) :
    ∃ body, writeString content = '"' :: body ∧
      ∀ rest, readString? (body ++ rest) = some (content, rest) := by
  match content with
  | some t =>
    refine ⟨t.flatMap escape ++ ['"'], rfl, fun rest => ?_⟩
    rw [List.append_assoc, List.singleton_append, readString?, stringPieces?_written]
    exact congrArg (fun content => some (content, rest)) (pieceText?_pieceOf t)
  | none =>
    exact ⟨['\\', 'u', 'd', '8', '0', '0', '"'], by decide, fun rest => rfl⟩

/-- Whether a character can be part of a numeral that has begun before it. -/
def continuesNumeral (c : Char) : Bool := c.isDigit || c = '.' || c = 'e' || c = 'E'

def EndsNumeral (t : Text) : Prop := ∀ c, t.head? = some c → continuesNumeral c = false

/-- A text that is read as one numeral, from its first character to its last. -/
def IsNumeral (t : Text) : Prop :=
  ∀ rest, EndsNumeral rest → readNumeral? (t ++ rest) = some (t, rest)

theorem endsNumeral_nil : EndsNumeral [] := by
  intro c first
  contradiction

theorem endsNumeral_cons (other : continuesNumeral c = false) (t : Text) :
    EndsNumeral (c :: t) := by
  intro d same
  rwa [← Option.some.inj same]

theorem readDigits?_append {digits : Text} (occupied : digits ≠ [])
    (all : ∀ c ∈ digits, c.isDigit = true) (ends : EndsNumeral rest) :
    readDigits? (digits ++ rest) = some (digits, rest) := by
  have solid : ∀ c, rest.head? = some c → c.isDigit = false := by
    intro c first
    have other := ends c first
    simp only [continuesNumeral, Bool.or_eq_false_iff] at other
    exact other.1.1.1
  rw [readDigits?, Text.takeWhile_append_of_head all solid, Text.dropWhile_append_of_head all solid]
  exact if_neg (by simpa using occupied)

theorem readFraction?_of_ends (ends : EndsNumeral rest) : readFraction? rest = some ([], rest) := by
  rw [readFraction?]
  intro t same
  subst same
  exact absurd (ends '.' rfl) (by decide)

theorem readExponent?_of_ends (ends : EndsNumeral rest) : readExponent? rest = some ([], rest) := by
  cases rest with
  | nil => rfl
  | cons c t =>
    have other := ends c rfl
    simp only [continuesNumeral, Bool.or_eq_false_iff] at other
    exact if_neg (by simp [other.1.2, other.2])

/-- Digits without a zero in front are a numeral. -/
theorem isNumeral_of_digits {digits : Text} (occupied : digits ≠ [])
    (all : ∀ c ∈ digits, c.isDigit = true) (first : 1 < digits.length → digits.head? ≠ some '0') :
    IsNumeral digits := by
  intro rest ends
  have whole : readWhole? (digits ++ rest) = some (digits, rest) := by
    rw [readWhole?, readDigits?_append occupied all ends]
    simpa using first
  have unsigned : ∀ t, digits ++ rest = '-' :: t → False := by
    intro t same
    obtain ⟨c, others, rfl⟩ := List.exists_cons_of_ne_nil occupied
    obtain ⟨rfl, _⟩ := List.cons.inj same
    exact absurd (all '-' List.mem_cons_self) (by decide)
  unfold readNumeral?
  split
  next sign t parts =>
    split at parts
    · exact (unsigned _ ‹_›).elim
    · obtain ⟨rfl, rfl⟩ := Prod.mk.inj parts
      simp [whole, readFraction?_of_ends ends, readExponent?_of_ends ends]

theorem isDigit_ofNat : ∀ c ∈ Text.ofNat n, c.isDigit = true :=
  fun _ member => Nat.isDigit_of_mem_toDigits (by decide) (by decide) member

theorem head?_ofNat (positive : 0 < n) : (Text.ofNat n).head? ≠ some '0' := by
  induction n using Nat.strongRecOn with
  | ind n ih =>
    rw [Text.ofNat, Nat.toDigits_eq_if (by decide)]
    split
    · have all : ∀ n < 10, 0 < n → [n.digitChar].head? ≠ some '0' := by decide
      exact all n ‹n < 10› positive
    · rw [List.head?_append_of_ne_nil _ Nat.toDigits_ne_nil]
      exact ih (n / 10) (by omega) (by omega)

theorem isNumeral_ofNat (n : Nat) : IsNumeral (Text.ofNat n) := by
  refine isNumeral_of_digits Nat.toDigits_ne_nil isDigit_ofNat fun long => ?_
  refine head?_ofNat (Nat.pos_of_ne_zero fun zero => ?_)
  subst zero
  exact absurd long (by decide)

/-- A numeral begins with a sign or a digit. -/
theorem IsNumeral.head (numeral : IsNumeral t) :
    ∃ c u, t = c :: u ∧ (c = '-' ∨ c.isDigit = true) := by
  have read := numeral [] endsNumeral_nil
  rw [List.append_nil] at read
  unfold readNumeral? at read
  split at read
  next sign u parts =>
    split at parts
    · exact ⟨'-', _, rfl, .inl rfl⟩
    · obtain ⟨rfl, rfl⟩ := Prod.mk.inj parts
      obtain ⟨whole, wholeRead, _⟩ := Option.bind_eq_some_iff.mp read
      obtain ⟨digits, digitsRead, _⟩ := Option.bind_eq_some_iff.mp wholeRead
      cases t with
      | nil => contradiction
      | cons c u =>
        refine ⟨c, u, rfl, .inr (by_contra fun other => ?_)⟩
        rw [readDigits?, List.takeWhile_cons_of_neg other] at digitsRead
        contradiction

theorem natural?_ofNat (n : Nat) :
    natural? (Text.ofNat n) = if n < UInt64.size then some n else none := by
  have unsigned : Decimal.takeSign (Text.ofNat n) = (false, Text.ofNat n) := by
    rw [Decimal.takeSign] <;> intro t same <;>
      exact absurd (isDigit_ofNat _ (same ▸ List.mem_cons_self)) (by decide)
  have whole : (Text.ofNat n).takeWhile Char.isDigit = Text.ofNat n :=
    List.takeWhile_eq_self_iff.mpr isDigit_ofNat
  have nothing : (Text.ofNat n).dropWhile Char.isDigit = [] :=
    List.dropWhile_eq_nil_iff.mpr isDigit_ofNat
  have value : digitsValue (Text.ofNat n) = n := by
    rw [digitsValue]
    exact Nat.ofDigitChars_eq_foldl.symm.trans Nat.ofDigitChars_ten_toDigits
  simp [natural?, numeralParts, unsigned, whole, nothing, value, exponentPart]

theorem natural?_lt {numeral : Text} (read : natural? numeral = some n) : n < UInt64.size := by
  obtain ⟨fits, same⟩ := Option.ite_none_right_eq_some.mp read
  cases same
  simp only [Bool.and_eq_true, decide_eq_true_eq] at fits
  exact fits.2

end CodeWiki.Json
