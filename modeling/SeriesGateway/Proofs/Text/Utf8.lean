import SeriesGateway.Text.Utf8

/-! # Well-formed bytes

The bytes of a text are decoded to that text, in front of anything else, and no other
bytes are decoded without a fault. So the bytes in which something is replaced are
those that no text has.
-/

namespace SeriesGateway.Text.Utf8

variable {b : UInt8} {bytes after : List UInt8} {lead : Lead} {number : Nat}

/-! ## Lead bytes -/

theorem ofByte?_two {b : Nat} (hlow : 0xc2 ≤ b) (hhigh : b ≤ 0xdf) :
    Lead.ofByte? b = some ⟨1, b - 0xc0, 0x80, 0xbf⟩ := by
  rw [Lead.ofByte?, if_pos ⟨hlow, hhigh⟩]

/-- The first of these bytes keeps out overlong forms, and the last but two surrogates. -/
theorem ofByte?_three {b : Nat} (hlow : 0xe0 ≤ b) (hhigh : b ≤ 0xef) :
    Lead.ofByte? b = some ⟨2, b - 0xe0, if b = 0xe0 then 0xa0 else 0x80,
      if b = 0xed then 0x9f else 0xbf⟩ := by
  rw [Lead.ofByte?, if_neg (by omega)]
  by_cases hfirst : b = 0xe0
  · simp [hfirst]
  by_cases hsurrogate : b = 0xed
  · simp [hsurrogate]
  · simp [hfirst, hsurrogate, show 0xe1 ≤ b ∧ b ≤ 0xef by omega]

/-- The first of these bytes keeps out overlong forms, and the last one numbers beyond
those of characters. -/
theorem ofByte?_four {b : Nat} (hlow : 0xf0 ≤ b) (hhigh : b ≤ 0xf4) :
    Lead.ofByte? b = some ⟨3, b - 0xf0, if b = 0xf0 then 0x90 else 0x80,
      if b = 0xf4 then 0x8f else 0xbf⟩ := by
  rw [Lead.ofByte?, if_neg (by omega), if_neg (by omega), if_neg (by omega), if_neg (by omega)]
  by_cases hfirst : b = 0xf0
  · simp [hfirst]
  by_cases hlast : b = 0xf4
  · simp [hlast]
  · simp [hfirst, hlast, show 0xf1 ≤ b ∧ b ≤ 0xf3 by omega]

theorem lead_bounds {b : Nat} (hlead : Lead.ofByte? b = some lead) :
    (0xc2 ≤ b ∧ b ≤ 0xdf) ∨ (0xe0 ≤ b ∧ b ≤ 0xef) ∨ (0xf0 ≤ b ∧ b ≤ 0xf4) := by
  refine Classical.byContradiction fun hnone => ?_
  rw [Lead.ofByte?, if_neg (by omega), if_neg (by omega), if_neg (by omega), if_neg (by omega),
    if_neg (by omega), if_neg (by omega), if_neg (by omega)] at hlead
  cases hlead

/-! ## Continuation bytes -/

theorem continuation_cons {lowest highest : Nat} (hlow : lowest ≤ b.toNat)
    (hhigh : b.toNat ≤ highest) (count value : Nat) (rest : List UInt8) :
    continuation (count + 1) value lowest highest (b :: rest) =
      continuation count (64 * value + (b.toNat - 0x80)) 0x80 0xbf rest := by
  rw [continuation, if_pos ⟨hlow, hhigh⟩]

theorem exists_of_continuation {count value lowest highest : Nat}
    (hread : continuation (count + 1) value lowest highest bytes = (some number, after)) :
    ∃ b rest, bytes = b :: rest ∧ lowest ≤ b.toNat ∧ b.toNat ≤ highest ∧
      continuation count (64 * value + (b.toNat - 0x80)) 0x80 0xbf rest = (some number, after) := by
  cases bytes with
  | nil => cases hread
  | cons b rest =>
      rw [continuation] at hread
      split at hread
      next hbounds => exact ⟨b, rest, rfl, hbounds.1, hbounds.2, hread⟩
      next => cases hread

theorem continuation_zero {value lowest highest : Nat} :
    continuation 0 value lowest highest bytes = (some number, after) ↔
      value = number ∧ bytes = after := by
  rw [continuation, Prod.mk.injEq, Option.some.injEq]

/-! ## Characters -/

theorem toNat_val_ofNat (hvalid : number.isValidChar) :
    (Char.ofNat number).val.toNat = number := by
  rw [Char.ofNat, dif_pos hvalid]
  rfl

theorem utf8EncodeChar_one (h : number ≤ 0x7f) :
    String.utf8EncodeChar (Char.ofNat number) = [UInt8.ofNat number] := by
  have hvalue : (Char.ofNat number).val.toNat = number := toNat_val_ofNat (.inl (by omega))
  rw [String.utf8EncodeChar]
  simp only [hvalue]
  rw [if_pos h]

theorem utf8EncodeChar_two (hlow : 0x80 ≤ number) (hhigh : number ≤ 0x7ff) :
    String.utf8EncodeChar (Char.ofNat number) =
      [UInt8.ofNat (number / 64 + 0xc0), UInt8.ofNat (number % 64 + 0x80)] := by
  have hvalue : (Char.ofNat number).val.toNat = number := toNat_val_ofNat (.inl (by omega))
  rw [String.utf8EncodeChar]
  simp only [hvalue]
  rw [if_neg (by omega), if_pos hhigh, Nat.mod_eq_of_lt (a := number / 64) (by omega)]

theorem utf8EncodeChar_three (hvalid : number.isValidChar) (hlow : 0x800 ≤ number)
    (hhigh : number ≤ 0xffff) :
    String.utf8EncodeChar (Char.ofNat number) =
      [UInt8.ofNat (number / 4096 + 0xe0), UInt8.ofNat (number / 64 % 64 + 0x80),
        UInt8.ofNat (number % 64 + 0x80)] := by
  have hvalue := toNat_val_ofNat hvalid
  rw [String.utf8EncodeChar]
  simp only [hvalue]
  rw [if_neg (by omega), if_neg (by omega), if_pos hhigh,
    Nat.mod_eq_of_lt (a := number / 4096) (by omega)]

theorem utf8EncodeChar_four (hlow : 0x10000 ≤ number) (hhigh : number < 0x110000) :
    String.utf8EncodeChar (Char.ofNat number) =
      [UInt8.ofNat (number / 262144 + 0xf0), UInt8.ofNat (number / 4096 % 64 + 0x80),
        UInt8.ofNat (number / 64 % 64 + 0x80), UInt8.ofNat (number % 64 + 0x80)] := by
  have hvalue : (Char.ofNat number).val.toNat = number :=
    toNat_val_ofNat (.inr ⟨by omega, hhigh⟩)
  rw [String.utf8EncodeChar]
  simp only [hvalue]
  rw [if_neg (by omega), if_neg (by omega), if_neg (by omega),
    Nat.mod_eq_of_lt (a := number / 262144) (by omega)]

theorem eq_ofNat (h : b.toNat = number) : b = UInt8.ofNat number := by
  rw [← h, UInt8.ofNat_toNat]

theorem toNat_ofNat (h : number < 256) : (UInt8.ofNat number).toNat = number :=
  UInt8.toNat_ofNat_of_lt' h

/-- What is read behind a lead byte is the encoding of the character that is read. -/
theorem cons_eq_of_continuation (hlead : Lead.ofByte? b.toNat = some lead)
    (hread : continuation lead.following lead.payload lead.lowest lead.highest bytes =
      (some number, after)) :
    b :: bytes = String.utf8EncodeChar (Char.ofNat number) ++ after := by
  rcases lead_bounds hlead with ⟨hlow, hhigh⟩ | ⟨hlow, hhigh⟩ | ⟨hlow, hhigh⟩
  · obtain rfl := Option.some.inj ((ofByte?_two hlow hhigh).symm.trans hlead)
    obtain ⟨c, _, rfl, hclow, hchigh, hread⟩ := exists_of_continuation hread
    obtain ⟨rfl, rfl⟩ := continuation_zero.mp hread
    dsimp only at hclow hchigh ⊢
    rw [utf8EncodeChar_two (by omega) (by omega)]
    simp only [List.cons_append, List.nil_append, List.cons.injEq, and_true]
    exact ⟨eq_ofNat (by omega), eq_ofNat (by omega)⟩
  · obtain rfl := Option.some.inj ((ofByte?_three hlow hhigh).symm.trans hlead)
    obtain ⟨c, _, rfl, hclow, hchigh, hread⟩ := exists_of_continuation hread
    obtain ⟨d, _, rfl, hdlow, hdhigh, hread⟩ := exists_of_continuation hread
    obtain ⟨rfl, rfl⟩ := continuation_zero.mp hread
    have hfirst : 0x80 ≤ c.toNat ∧ c.toNat ≤ 0xbf ∧ (b.toNat = 0xe0 → 0xa0 ≤ c.toNat) ∧
        (b.toNat = 0xed → c.toNat ≤ 0x9f) := by
      dsimp only at hclow hchigh
      split at hclow <;> split at hchigh <;> omega
    dsimp only
    rw [utf8EncodeChar_three (by rw [Nat.isValidChar]; omega) (by omega) (by omega)]
    simp only [List.cons_append, List.nil_append, List.cons.injEq, and_true]
    exact ⟨eq_ofNat (by omega), eq_ofNat (by omega), eq_ofNat (by omega)⟩
  · obtain rfl := Option.some.inj ((ofByte?_four hlow hhigh).symm.trans hlead)
    obtain ⟨c, _, rfl, hclow, hchigh, hread⟩ := exists_of_continuation hread
    obtain ⟨d, _, rfl, hdlow, hdhigh, hread⟩ := exists_of_continuation hread
    obtain ⟨e, _, rfl, helow, hehigh, hread⟩ := exists_of_continuation hread
    obtain ⟨rfl, rfl⟩ := continuation_zero.mp hread
    have hfirst : 0x80 ≤ c.toNat ∧ c.toNat ≤ 0xbf ∧ (b.toNat = 0xf0 → 0x90 ≤ c.toNat) ∧
        (b.toNat = 0xf4 → c.toNat ≤ 0x8f) := by
      dsimp only at hclow hchigh
      split at hclow <;> split at hchigh <;> omega
    dsimp only
    rw [utf8EncodeChar_four (by omega) (by omega)]
    simp only [List.cons_append, List.nil_append, List.cons.injEq, and_true]
    exact ⟨eq_ofNat (by omega), eq_ofNat (by omega), eq_ofNat (by omega), eq_ofNat (by omega)⟩

/-- Every character beyond the first 128 is read behind the first byte of its encoding. -/
theorem exists_lead (hvalid : number.isValidChar) (hlarge : 0x80 ≤ number) :
    ∃ b tail lead, String.utf8EncodeChar (Char.ofNat number) = b :: tail ∧
      Lead.ofByte? b.toNat = some lead ∧
      ∀ rest, continuation lead.following lead.payload lead.lowest lead.highest (tail ++ rest) =
        (some number, rest) := by
  have hscalar := hvalid
  rw [Nat.isValidChar] at hscalar
  have hlast : (UInt8.ofNat (number % 64 + 0x80)).toNat = number % 64 + 0x80 :=
    toNat_ofNat (by omega)
  have hmiddle : (UInt8.ofNat (number / 64 % 64 + 0x80)).toNat = number / 64 % 64 + 0x80 :=
    toNat_ofNat (by omega)
  by_cases htwo : number ≤ 0x7ff
  · have hlead : (UInt8.ofNat (number / 64 + 0xc0)).toNat = number / 64 + 0xc0 :=
      toNat_ofNat (by omega)
    refine ⟨_, _, _, utf8EncodeChar_two hlarge htwo,
      ofByte?_two (by omega) (by omega), fun rest => ?_⟩
    dsimp only [List.singleton_append]
    rw [continuation_cons (by omega) (by omega), continuation_zero, hlast]
    exact ⟨by omega, rfl⟩
  by_cases hthree : number ≤ 0xffff
  · have hlead : (UInt8.ofNat (number / 4096 + 0xe0)).toNat = number / 4096 + 0xe0 :=
      toNat_ofNat (by omega)
    refine ⟨_, _, _, utf8EncodeChar_three hvalid (by omega) hthree,
      ofByte?_three (by omega) (by omega), fun rest => ?_⟩
    dsimp only [List.cons_append, List.nil_append]
    rw [continuation_cons (by split <;> omega) (by split <;> omega),
      continuation_cons (by omega) (by omega), continuation_zero, hmiddle, hlast]
    exact ⟨by omega, rfl⟩
  · have hlead : (UInt8.ofNat (number / 262144 + 0xf0)).toNat = number / 262144 + 0xf0 :=
      toNat_ofNat (by omega)
    have hnext : (UInt8.ofNat (number / 4096 % 64 + 0x80)).toNat = number / 4096 % 64 + 0x80 :=
      toNat_ofNat (by omega)
    refine ⟨_, _, _, utf8EncodeChar_four (by omega) (by omega),
      ofByte?_four (by omega) (by omega), fun rest => ?_⟩
    dsimp only [List.cons_append, List.nil_append]
    rw [continuation_cons (by split <;> omega) (by split <;> omega),
      continuation_cons (by omega) (by omega), continuation_cons (by omega) (by omega),
      continuation_zero, hnext, hmiddle, hlast]
    exact ⟨by omega, rfl⟩

/-! ## Decoding -/

theorem decode_cons_of_ascii (hascii : b.toNat < 0x80) (rest : List UInt8) :
    decode (b :: rest) = some (Char.ofNat b.toNat) :: decode rest := by
  rw [decode, if_pos hascii]

theorem decode_cons_of_lead (hlead : Lead.ofByte? b.toNat = some lead)
    (hread : continuation lead.following lead.payload lead.lowest lead.highest bytes =
      (some number, after)) :
    decode (b :: bytes) = some (Char.ofNat number) :: decode after := by
  have hbounds := lead_bounds hlead
  rw [decode, if_neg (by omega), hlead]
  dsimp only
  rw [hread, Option.map_some]

/-- The bytes of a character are decoded to it in front of any others. -/
theorem decode_char_append (c : Char) (rest : List UInt8) :
    decode (String.utf8EncodeChar c ++ rest) = some c :: decode rest := by
  rw [← c.ofNat_toNat]
  by_cases hascii : c.toNat ≤ 0x7f
  · have hbyte : (UInt8.ofNat c.toNat).toNat = c.toNat := toNat_ofNat (by omega)
    rw [utf8EncodeChar_one hascii, List.singleton_append, decode_cons_of_ascii (by omega), hbyte]
  · have hvalid : c.toNat.isValidChar := c.valid
    obtain ⟨b, tail, lead, hencode, hlead, hread⟩ := exists_lead hvalid (by omega)
    rw [hencode, List.cons_append, decode_cons_of_lead hlead (hread rest)]

theorem decode_encode_append (text : List Char) (rest : List UInt8) :
    decode (encode text ++ rest) = text.map some ++ decode rest := by
  induction text with
  | nil => rfl
  | cons c text ih =>
      rw [encode, List.flatMap_cons, ← encode, List.append_assoc, decode_char_append, ih,
        List.map_cons, List.cons_append]

theorem decode_encode (text : List Char) : decode (encode text) = text.map some := by
  have hdecode := decode_encode_append text []
  rwa [List.append_nil, decode, List.append_nil] at hdecode

/-- Bytes that are decoded without a fault are those of the text they are decoded to. -/
theorem eq_encode_of_decode {text : List Char} (hdecode : decode bytes = text.map some) :
    bytes = encode text := by
  fun_induction decode bytes generalizing text with
  | case1 =>
      rw [List.map_eq_nil_iff.mp hdecode.symm]
      rfl
  | case2 b rest hascii ih =>
      obtain ⟨c, text, rfl, hchar, hrest⟩ := List.map_eq_cons_iff.mp hdecode.symm
      rw [encode, List.flatMap_cons, ← encode, ← ih hrest.symm, Option.some.inj hchar,
        utf8EncodeChar_one (by omega), UInt8.ofNat_toNat, List.singleton_append]
  | case3 b rest hhigh hlead ih =>
      obtain ⟨c, text, rfl, hchar, -⟩ := List.map_eq_cons_iff.mp hdecode.symm
      cases hchar
  | case4 b rest hhigh lead hlead read =>
      rename_i ih
      obtain ⟨c, text, rfl, hchar, hrest⟩ := List.map_eq_cons_iff.mp hdecode.symm
      obtain ⟨number, hnumber, rfl⟩ := Option.map_eq_some_iff.mp hchar.symm
      rw [cons_eq_of_continuation hlead (Prod.ext hnumber rfl), encode, List.flatMap_cons, ← encode,
        ← ih hrest.symm]

/-! ## Well-formed bytes -/

theorem toByteArray_eq_iff {text : String} :
    bytes.toByteArray = text.toByteArray ↔ bytes = encode text.toList := by
  have hbytes : text.toByteArray = (encode text.toList).toByteArray := by
    conv => lhs; rw [← String.ofList_toList (s := text), String.toByteArray_ofList]
    rfl
  rw [hbytes, List.toByteArray_inj]

theorem isValidUTF8_iff : bytes.toByteArray.IsValidUTF8 ↔ ∃ text, bytes = encode text := by
  constructor
  · rintro ⟨text, htext⟩
    exact ⟨text, List.toByteArray_inj.mp htext⟩
  · rintro ⟨text, rfl⟩
    exact ⟨text, rfl⟩

/-- There is a fault in all bytes but those of a text. -/
theorem none_mem_decode_iff : none ∈ decode bytes ↔ ¬ bytes.toByteArray.IsValidUTF8 := by
  rw [isValidUTF8_iff]
  constructor
  · rintro hfault ⟨text, rfl⟩
    rw [decode_encode, List.mem_map] at hfault
    obtain ⟨c, -, hc⟩ := hfault
    cases hc
  · intro hforeign
    refine Classical.byContradiction fun hfaultless => hforeign ?_
    refine ⟨(decode bytes).map (·.getD replacement), eq_encode_of_decode ?_⟩
    have hsame : ∀ c ∈ decode bytes, (some ∘ (·.getD replacement)) c = c := by
      intro c hc
      cases c with
      | none => exact absurd hc hfaultless
      | some c => rfl
    rw [List.map_map, List.map_congr_left hsame, List.map_id']

theorem map_getD (text : List Char) : (text.map some).map (·.getD replacement) = text := by
  rw [List.map_map]
  exact List.map_id text

theorem decodeLossy_encode (text : List Char) : decodeLossy (encode text) = String.ofList text := by
  rw [decodeLossy, decode_encode, map_getD]

/-- Of bytes that no text has, something is replaced. -/
theorem replacement_mem_decodeLossy (hforeign : ¬ bytes.toByteArray.IsValidUTF8) :
    replacement ∈ (decodeLossy bytes).toList := by
  rw [decodeLossy, String.toList_ofList, List.mem_map]
  exact ⟨none, none_mem_decode_iff.mpr hforeign, rfl⟩

/-- Every text with the replacement character in it is what is made of bytes that no
text has: those with a byte in place of the character that begins nothing. -/
theorem exists_foreign {text : List Char} (hreplaced : replacement ∈ text) :
    ∃ bytes, ¬ bytes.toByteArray.IsValidUTF8 ∧ decodeLossy bytes = String.ofList text := by
  obtain ⟨front, back, rfl⟩ := List.append_of_mem hreplaced
  have hdecode : decode (encode front ++ 0xff :: encode back) =
      front.map some ++ none :: back.map some := by
    have hlead : Lead.ofByte? (0xff : UInt8).toNat = none := by decide
    rw [decode_encode_append, decode, if_neg (by decide), hlead]
    dsimp only
    rw [decode_encode]
  refine ⟨encode front ++ 0xff :: encode back, ?_, ?_⟩
  · rw [← none_mem_decode_iff, hdecode]
    exact List.mem_append_right _ List.mem_cons_self
  · rw [decodeLossy, hdecode, List.map_append, List.map_cons, map_getD, map_getD,
      Option.getD_none]

end SeriesGateway.Text.Utf8
