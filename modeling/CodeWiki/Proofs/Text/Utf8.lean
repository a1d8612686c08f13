import CodeWiki.Text.Utf8

/-! Decoding takes a row of bytes apart as encoding puts it together: in front stands a character
that is encoded by just the bytes it is read from, or a fault. -/
namespace CodeWiki.Utf8

variable {a b c d : UInt8} {n : Nat}

theorem width_bounds (a : UInt8) :
    (width a = 1 → a.toNat < 0x80) ∧ (width a = 2 → 0xC2 ≤ a.toNat ∧ a.toNat < 0xE0) ∧
      (width a = 3 → 0xE0 ≤ a.toNat ∧ a.toNat < 0xF0) ∧
      (width a = 4 → 0xF0 ≤ a.toNat ∧ a.toNat < 0xF5) := by
  unfold width
  simp only [UInt8.lt_iff_toNat_lt]
  repeat' split
  all_goals simp_all

theorem continues_bounds (h : continues b = true) : 0x80 ≤ b.toNat ∧ b.toNat < 0xC0 := by
  simpa [continues, UInt8.le_iff_toNat_le, UInt8.lt_iff_toNat_lt] using h

theorem follows_bounds (h : follows a b = true) :
    (0x80 ≤ b.toNat ∧ b.toNat < 0xC0) ∧ (a.toNat = 0xE0 → 0xA0 ≤ b.toNat) ∧
      (a.toNat = 0xED → b.toNat < 0xA0) ∧ (a.toNat = 0xF0 → 0x90 ≤ b.toNat) ∧
      (a.toNat = 0xF4 → b.toNat < 0x90) := by
  unfold follows continues at h
  simp only [← UInt8.toNat_inj, UInt8.le_iff_toNat_le, UInt8.lt_iff_toNat_lt] at h
  repeat' split at h
  all_goals simp_all <;> omega

theorem utf8EncodeChar_ofNat (valid : n.isValidChar) :
    String.utf8EncodeChar (Char.ofNat n) =
      if n ≤ 0x7F then [UInt8.ofNat n]
      else if n ≤ 0x7FF then [UInt8.ofNat (n / 64 % 32 + 192), UInt8.ofNat (n % 64 + 128)]
      else if n ≤ 0xFFFF then
        [UInt8.ofNat (n / 4096 % 16 + 224), UInt8.ofNat (n / 64 % 64 + 128),
          UInt8.ofNat (n % 64 + 128)]
      else
        [UInt8.ofNat (n / 262144 % 8 + 240), UInt8.ofNat (n / 4096 % 64 + 128),
          UInt8.ofNat (n / 64 % 64 + 128), UInt8.ofNat (n % 64 + 128)] := by
  have value : (Char.ofNat n).val.toNat = n := by
    rw [Char.ofNat, dif_pos valid]
    rfl
  rw [String.utf8EncodeChar, value]

theorem ofNat_eq (h : n = a.toNat) : UInt8.ofNat n = a := by
  rw [h]
  exact UInt8.ofNat_toNat

theorem encode_one (first : width a = 1) : String.utf8EncodeChar (Char.ofNat a.toNat) = [a] := by
  have := (width_bounds a).1 first
  rw [utf8EncodeChar_ofNat (Or.inl (by omega)), if_pos (by omega), ofNat_eq rfl]

theorem encode_two (first : width a = 2) (second : continues b = true) :
    String.utf8EncodeChar (Char.ofNat (a.toNat % 32 * 64 + low b)) = [a, b] := by
  have := (width_bounds a).2.1 first
  have := continues_bounds second
  unfold low
  rw [utf8EncodeChar_ofNat (Or.inl (by omega)), if_neg (by omega), if_pos (by omega),
    ofNat_eq (a := a) (by omega), ofNat_eq (a := b) (by omega)]

theorem encode_three (first : width a = 3) (second : follows a b = true)
    (third : continues c = true) :
    String.utf8EncodeChar (Char.ofNat ((a.toNat % 16 * 64 + low b) * 64 + low c)) = [a, b, c] := by
  have := (width_bounds a).2.2.1 first
  have := follows_bounds second
  have := continues_bounds third
  unfold low
  have valid : ((a.toNat % 16 * 64 + b.toNat % 64) * 64 + c.toNat % 64).isValidChar := by
    unfold Nat.isValidChar
    omega
  rw [utf8EncodeChar_ofNat valid, if_neg (by omega), if_neg (by omega), if_pos (by omega),
    ofNat_eq (a := a) (by omega), ofNat_eq (a := b) (by omega), ofNat_eq (a := c) (by omega)]

theorem encode_four (first : width a = 4) (second : follows a b = true) (third : continues c = true)
    (fourth : continues d = true) :
    String.utf8EncodeChar
        (Char.ofNat (((a.toNat % 8 * 64 + low b) * 64 + low c) * 64 + low d)) = [a, b, c, d] := by
  have := (width_bounds a).2.2.2 first
  have := follows_bounds second
  have := continues_bounds third
  have := continues_bounds fourth
  unfold low
  rw [utf8EncodeChar_ofNat (Or.inr (by omega)), if_neg (by omega), if_neg (by omega),
    if_neg (by omega), ofNat_eq (a := a) (by omega), ofNat_eq (a := b) (by omega),
    ofNat_eq (a := c) (by omega), ofNat_eq (a := d) (by omega)]

/-- In front of a row of bytes stands a character, or a fault; either takes at least one byte. -/
theorem decodeEach_cons (a : UInt8) (rest : Bytes) :
    ∃ more, more <:+ rest ∧
      ((∃ c, a :: rest = String.utf8EncodeChar c ++ more ∧
          decodeEach (a :: rest) = some c :: decodeEach more) ∨
        decodeEach (a :: rest) = none :: decodeEach more) := by
  generalize whole : a :: rest = bytes
  fun_cases decodeEach bytes
  case case1 => cases whole
  all_goals cases whole
  case case2.refl first =>
    exact ⟨rest, List.suffix_refl _, Or.inl ⟨_, by rw [encode_one first]; rfl, rfl⟩⟩
  case case3.refl b more second first =>
    exact ⟨more, List.suffix_cons b more, Or.inl ⟨_, by rw [encode_two first second]; rfl, rfl⟩⟩
  case case7.refl b c more third first second =>
    simp only [Bool.not_eq_true', Bool.not_eq_false] at second third
    exact ⟨more, List.suffix_append [b, c] more,
      Or.inl ⟨_, by rw [encode_three first second third]; rfl, rfl⟩⟩
  case case13.refl b c d more third fourth first second =>
    simp only [Bool.not_eq_true', Bool.not_eq_false] at second third fourth
    exact ⟨more, List.suffix_append [b, c, d] more,
      Or.inl ⟨_, by rw [encode_four first second third fourth]; rfl, rfl⟩⟩
  -- The row ends within a character.
  case case8.refl | case16.refl | case17.refl =>
    exact ⟨[], List.nil_suffix, Or.inr (by rw [decodeEach])⟩
  all_goals
    refine ⟨_, ?_, Or.inr rfl⟩
    simp only [List.suffix_cons_iff, List.suffix_refl, or_true]

theorem encode_of_decodeEach {bytes : Bytes} {t : Text} (decoded : decodeEach bytes = t.map some) :
    encode t = bytes := by
  induction t generalizing bytes with
  | nil =>
    cases bytes with
    | nil => rfl
    | cons a rest => obtain ⟨_, _, ⟨_, _, h⟩ | h⟩ := decodeEach_cons a rest <;> simp [h] at decoded
  | cons c t ih =>
    cases bytes with
    | nil => simp [decodeEach] at decoded
    | cons a rest =>
      obtain ⟨more, -, ⟨c', taken, h⟩ | h⟩ := decodeEach_cons a rest
      · rw [h, List.map_cons, List.cons.injEq, Option.some.injEq] at decoded
        obtain ⟨rfl, later⟩ := decoded
        rw [taken, ← ih later]
        rfl
      · simp [h] at decoded

theorem decode?_eq_some_iff {bytes : Bytes} {t : Text} :
    decode? bytes = some t ↔ decodeEach bytes = t.map some := by
  unfold decode?
  generalize decodeEach bytes = each
  induction each generalizing t with
  | nil => cases t <;> simp
  | cons c rest ih =>
    cases c with
    | none => cases t <;> simp
    | some c =>
      cases t with
      | nil => simp [Option.bind_eq_some_iff]
      | cons c' t =>
        simp only [List.mapM_cons, id_eq, Option.pure_def, Option.bind_eq_bind, Option.bind_some,
          Option.bind_eq_some_iff, ih, Option.some.injEq, List.cons.injEq, List.map_cons]
        constructor
        · rintro ⟨_, later, rfl, rfl⟩
          exact ⟨rfl, later⟩
        · rintro ⟨rfl, later⟩
          exact ⟨t, later, rfl, rfl⟩

/-- Strict decoding keeps apart what it decodes. -/
theorem encode_of_decode? {bytes : Bytes} {t : Text} (decoded : decode? bytes = some t) :
    encode t = bytes := encode_of_decodeEach (decode?_eq_some_iff.mp decoded)

theorem decodeLossy_of_decode? {bytes : Bytes} {t : Text} (decoded : decode? bytes = some t) :
    decodeLossy bytes = t := by
  rw [decodeLossy, decode?_eq_some_iff.mp decoded, List.map_map]
  exact List.map_id t

theorem slash_not_mem_decodeLossy {name : Bytes} (absent : 0x2F ∉ name) :
    '/' ∉ decodeLossy name := by
  induction size : name.length using Nat.strongRecOn generalizing name with
  | _ n ih =>
    cases name with
    | nil => simp [decodeLossy, decodeEach]
    | cons a rest =>
      obtain ⟨more, suffix, front⟩ := decodeEach_cons a rest
      have later : '/' ∉ decodeLossy more := by
        refine ih more.length ?_ ?_ rfl
        · rw [← size]
          exact Nat.lt_succ_of_le suffix.length_le
        · exact fun member => absent (List.mem_cons_of_mem a (suffix.subset member))
      unfold decodeLossy at later ⊢
      rcases front with ⟨c, taken, h⟩ | h <;> rw [h, List.map_cons, List.mem_cons, not_or]
      · refine ⟨?_, later⟩
        rintro rfl
        exact absent (taken ▸ List.mem_append_left more (by decide))
      · exact ⟨by decide, later⟩

end CodeWiki.Utf8
