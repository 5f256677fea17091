import Mathlib
import DeliveryFleet.Text.Utf8

/-!
# Reading the bytes of a text back

`Utf8.pieces` reads bytes piece by piece, the way a regular expression reads its input: a
well-formed sequence gives its character, and a byte that starts none is a piece of its own. This
module proves what the readers of topics and payloads need of it.

* The bytes of a text read back as the text (`Utf8.decode_encode`): each character's form reads as
  the character, whatever follows it (`Utf8.pieces_utf8EncodeChar_append`).
* A byte below `0x80` is never part of a longer form, so reading starts afresh at it: the reading of
  `x ++ b :: rest` is that of `x` followed by that of `b :: rest` (`Utf8.pieces_append_ascii`).
* A character below `0x80` other than NUL is read only from its own byte
  (`Utf8.exists_byte_of_mem_decode`), and a byte below `0x80` in the bytes of a text is one of its
  characters (`Utf8.exists_char_of_mem_encode`).
-/

namespace DeliveryFleet.Utf8

/-! ## One piece at a time -/

@[simp] theorem pieces_nil : pieces [] = [] := by
  rw [pieces.eq_def]

theorem pieces_cons_ascii {b : UInt8} (hb : b < 0x80) (rest : List UInt8) :
    pieces (b :: rest) = .char (Char.ofNat b.toNat) :: pieces rest := by
  rw [pieces.eq_def (b :: rest)]
  simp [hb]

theorem toNat_ofNat_of_lt {n : Nat} (h : n < 256) : (UInt8.ofNat n).toNat = n := by
  rw [UInt8.toNat_ofNat']
  exact Nat.mod_eq_of_lt h

/-- The range `secondRange` allows after a lead byte, in numbers. -/
theorem within_secondRange_iff {b0 b1 : UInt8} :
    within (secondRange b0) b1 = true ↔
      (if b0.toNat = 0xE0 then 0xA0 else if b0.toNat = 0xF0 then 0x90 else 0x80) ≤ b1.toNat ∧
        b1.toNat ≤
          (if b0.toNat = 0xED then 0x9F else if b0.toNat = 0xF4 then 0x8F else 0xBF) := by
  unfold within secondRange
  by_cases hE0 : b0.toNat = 0xE0
  · simp [hE0, ← UInt8.toNat_inj, UInt8.le_iff_toNat_le]
  by_cases hED : b0.toNat = 0xED
  · simp [hED, ← UInt8.toNat_inj, UInt8.le_iff_toNat_le]
  by_cases hF0 : b0.toNat = 0xF0
  · simp [hF0, ← UInt8.toNat_inj, UInt8.le_iff_toNat_le]
  by_cases hF4 : b0.toNat = 0xF4
  · simp [hF4, ← UInt8.toNat_inj, UInt8.le_iff_toNat_le]
  simp [hE0, hED, hF0, hF4, ← UInt8.toNat_inj, UInt8.le_iff_toNat_le]

theorem pieces_two {b0 b1 : UInt8} (h0 : 0xC2 ≤ b0.toNat ∧ b0.toNat ≤ 0xDF)
    (h1 : 0x80 ≤ b1.toNat ∧ b1.toNat ≤ 0xBF) (rest : List UInt8) :
    pieces (b0 :: b1 :: rest) =
      .char (Char.ofNat (b0.toNat % 32 * 64 + b1.toNat % 64)) :: pieces rest := by
  rw [pieces.eq_def (b0 :: _)]
  simp [UInt8.lt_iff_toNat_lt, UInt8.le_iff_toNat_le, isTail, tailBits, h0, h1]
  omega

theorem pieces_three {b0 b1 b2 : UInt8} (h0 : 0xE0 ≤ b0.toNat ∧ b0.toNat ≤ 0xEF)
    (h1 : within (secondRange b0) b1 = true) (h2 : 0x80 ≤ b2.toNat ∧ b2.toNat ≤ 0xBF)
    (rest : List UInt8) :
    pieces (b0 :: b1 :: b2 :: rest) =
      .char (Char.ofNat (b0.toNat % 16 * 4096 + b1.toNat % 64 * 64 + b2.toNat % 64)) ::
        pieces rest := by
  rw [pieces.eq_def (b0 :: _)]
  simp [UInt8.lt_iff_toNat_lt, UInt8.le_iff_toNat_le, isTail, tailBits, h0, h1, h2]
  rw [if_neg (by omega), if_neg (by omega)]

theorem pieces_four {b0 b1 b2 b3 : UInt8} (h0 : 0xF0 ≤ b0.toNat ∧ b0.toNat ≤ 0xF4)
    (h1 : within (secondRange b0) b1 = true) (h2 : 0x80 ≤ b2.toNat ∧ b2.toNat ≤ 0xBF)
    (h3 : 0x80 ≤ b3.toNat ∧ b3.toNat ≤ 0xBF) (rest : List UInt8) :
    pieces (b0 :: b1 :: b2 :: b3 :: rest) =
      .char (Char.ofNat (b0.toNat % 8 * 262144 + b1.toNat % 64 * 4096 + b2.toNat % 64 * 64 +
        b3.toNat % 64)) :: pieces rest := by
  rw [pieces.eq_def (b0 :: _)]
  simp [UInt8.lt_iff_toNat_lt, UInt8.le_iff_toNat_le, isTail, tailBits, h0, h1, h2, h3]
  rw [if_neg (by omega), if_neg (by omega), if_neg (by omega)]

theorem pieces_ne_nil {bs : List UInt8} (h : bs ≠ []) : pieces bs ≠ [] := by
  fun_induction pieces bs <;> simp_all

theorem decode_eq_nil_iff {bs : List UInt8} : decode bs = [] ↔ bs = [] := by
  constructor
  · intro h
    by_contra hne
    exact pieces_ne_nil hne (List.map_eq_nil_iff.1 h)
  · rintro rfl
    simp [decode]

theorem decode_cons_ascii {b : UInt8} (hb : b < 0x80) (rest : List UInt8) :
    decode (b :: rest) = Char.ofNat b.toNat :: decode rest := by
  simp [decode, pieces_cons_ascii hb, Piece.toChar]

/-! ## A byte below `0x80` starts a piece -/

theorem isTail_ascii {b : UInt8} (hb : b < 0x80) : isTail b = false := by
  simp only [isTail, Bool.and_eq_false_iff, decide_eq_false_iff_not, UInt8.not_le]
  exact .inl hb

theorem within_secondRange_ascii {b0 b : UInt8} (hb : b < 0x80) :
    within (secondRange b0) b = false := by
  simp only [UInt8.lt_iff_toNat_lt, UInt8.reduceToNat] at hb
  unfold within secondRange
  split_ifs <;> simp only [Bool.and_eq_false_iff, decide_eq_false_iff_not, UInt8.not_le,
    UInt8.lt_iff_toNat_lt, UInt8.reduceToNat] <;> omega

/-- A byte below `0x80` starts a piece of its own: whatever reads before it ends there. -/
theorem pieces_append_ascii (x : List UInt8) {b : UInt8} (hb : b < 0x80) (rest : List UInt8) :
    pieces (x ++ b :: rest) = pieces x ++ pieces (b :: rest) := by
  have htail := isTail_ascii hb
  have hrange : ∀ b0, within (secondRange b0) b = false := fun _ => within_secondRange_ascii hb
  fun_induction pieces x with
  | case1 => simp
  | case2 b0 r h0 ih =>
    rw [List.cons_append, pieces_cons_ascii h0, ih, List.cons_append]
  | case3 b0 h0 h2 b1 r1 ht ih =>
    rw [List.cons_append, List.cons_append, pieces.eq_def (b0 :: _)]
    simp [h0, h2, ht, ih]
  | case4 b0 h0 h2 b1 r1 ht ih =>
    rw [List.cons_append, List.cons_append, pieces.eq_def (b0 :: _)]
    simp [h0, h2, ht, ← ih]
  | case5 b0 h0 h2 =>
    rw [List.singleton_append, pieces.eq_def (b0 :: _)]
    simp [h0, h2, htail]
  | case6 b0 h0 h2 h3 b1 b2 r2 hv ih =>
    rw [List.cons_append, List.cons_append, List.cons_append, pieces.eq_def (b0 :: _)]
    simp [h0, h2, h3, hv, ih]
  | case7 b0 h0 h2 h3 b1 b2 r2 hv ih =>
    rw [List.cons_append, List.cons_append, List.cons_append, pieces.eq_def (b0 :: _)]
    simp [h0, h2, h3, hv, ← ih]
  | case8 b0 r h0 h2 h3 hshort ih =>
    rw [List.cons_append, pieces.eq_def (b0 :: _)]
    rcases r with _ | ⟨b1, _ | ⟨b2, r⟩⟩
    · cases rest <;> simp [h0, h2, h3, hrange]
    · simp [h0, h2, h3, htail, ← ih]
    · exact absurd rfl (hshort b1 b2 r)
  | case9 b0 h0 h2 h3 h4 b1 b2 b3 r3 hv ih =>
    rw [List.cons_append, List.cons_append, List.cons_append, List.cons_append,
      pieces.eq_def (b0 :: _)]
    simp [h0, h2, h3, h4, hv, ih]
  | case10 b0 h0 h2 h3 h4 b1 b2 b3 r3 hv ih =>
    rw [List.cons_append, List.cons_append, List.cons_append, List.cons_append,
      pieces.eq_def (b0 :: _)]
    simp [h0, h2, h3, h4, hv, ← ih]
  | case11 b0 r h0 h2 h3 h4 hshort ih =>
    rw [List.cons_append, pieces.eq_def (b0 :: _)]
    rcases r with _ | ⟨b1, _ | ⟨b2, _ | ⟨b3, r⟩⟩⟩
    · rcases rest with _ | ⟨c1, _ | ⟨c2, rest⟩⟩ <;> simp [h0, h2, h3, h4, hrange]
    · cases rest <;> simp [h0, h2, h3, h4, htail, ← ih]
    · simp [h0, h2, h3, h4, htail, ← ih]
    · exact absurd rfl (hshort b1 b2 b3 r)
  | case12 b0 r h0 h2 h3 h4 ih =>
    rw [List.cons_append, pieces.eq_def (b0 :: _)]
    simp [h0, h2, h3, h4, ih]

theorem decode_append_ascii (x : List UInt8) {b : UInt8} (hb : b < 0x80) (rest : List UInt8) :
    decode (x ++ b :: rest) = decode x ++ decode (b :: rest) := by
  simp [decode, pieces_append_ascii x hb]

/-! ## The bytes of a text -/

theorem pieces_utf8EncodeChar_append (c : Char) (rest : List UInt8) :
    pieces (String.utf8EncodeChar c ++ rest) = .char c :: pieces rest := by
  have hv : c.toNat < 0xD800 ∨ 0xDFFF < c.toNat ∧ c.toNat < 0x110000 := c.valid
  have hback : ∀ n, n = c.toNat → Char.ofNat n = c := fun n hn => hn ▸ Char.ofNat_toNat c
  unfold String.utf8EncodeChar
  simp only [Char.toNat_val]
  split
  · have h0 := toNat_ofNat_of_lt (n := c.toNat) (by omega)
    rw [List.singleton_append, pieces_cons_ascii (by rw [UInt8.lt_iff_toNat_lt, h0]; simp; omega),
      h0, Char.ofNat_toNat]
  split
  · have h0 := toNat_ofNat_of_lt (n := c.toNat / 64 % 32 + 192) (by omega)
    have h1 := toNat_ofNat_of_lt (n := c.toNat % 64 + 128) (by omega)
    rw [List.cons_append, List.cons_append, List.nil_append, pieces_two (by omega) (by omega),
      h0, h1, hback _ (by omega)]
  split
  · have h0 := toNat_ofNat_of_lt (n := c.toNat / 4096 % 16 + 224) (by omega)
    have h1 := toNat_ofNat_of_lt (n := c.toNat / 64 % 64 + 128) (by omega)
    have h2 := toNat_ofNat_of_lt (n := c.toNat % 64 + 128) (by omega)
    have hr : within (secondRange (UInt8.ofNat (c.toNat / 4096 % 16 + 224)))
        (UInt8.ofNat (c.toNat / 64 % 64 + 128)) = true := by
      rw [within_secondRange_iff, h0, h1]
      split_ifs <;> omega
    rw [List.cons_append, List.cons_append, List.cons_append, List.nil_append,
      pieces_three (by omega) hr (by omega), h0, h1, h2, hback _ (by omega)]
  · have h0 := toNat_ofNat_of_lt (n := c.toNat / 262144 % 8 + 240) (by omega)
    have h1 := toNat_ofNat_of_lt (n := c.toNat / 4096 % 64 + 128) (by omega)
    have h2 := toNat_ofNat_of_lt (n := c.toNat / 64 % 64 + 128) (by omega)
    have h3 := toNat_ofNat_of_lt (n := c.toNat % 64 + 128) (by omega)
    have hr : within (secondRange (UInt8.ofNat (c.toNat / 262144 % 8 + 240)))
        (UInt8.ofNat (c.toNat / 4096 % 64 + 128)) = true := by
      rw [within_secondRange_iff, h0, h1]
      split_ifs <;> omega
    rw [List.cons_append, List.cons_append, List.cons_append, List.cons_append, List.nil_append,
      pieces_four (by omega) hr (by omega) (by omega), h0, h1, h2, h3, hback _ (by omega)]

/-- `ByteArray.toList` lists the bytes in order. -/
theorem toList_loop (bs : ByteArray) (i : Nat) (r : List UInt8) :
    ByteArray.toList.loop bs i r = r.reverse ++ bs.data.toList.drop i := by
  fun_induction ByteArray.toList.loop bs i r with
  | case1 i r hlt ih =>
    have hlen : i < bs.data.toList.length := by simpa using hlt
    have hget : bs.get! i = bs.data[i]! := by cases bs; rfl
    rw [ih, List.drop_eq_getElem_cons hlen, hget, getElem!_pos bs.data i hlt]
    simp
  | case2 i r hlt =>
    rw [List.drop_eq_nil_of_le (by simpa using Nat.le_of_not_lt hlt)]
    simp

theorem encode_eq (s : String) : encode s = s.toList.flatMap String.utf8EncodeChar := by
  rw [encode, ByteArray.toList, toList_loop, String.toUTF8_eq_toByteArray,
    ← String.utf8Encode_toList]
  simp [List.utf8Encode]

@[simp] theorem encode_empty : encode "" = [] := by
  rw [encode_eq]
  rfl

theorem encode_append (s t : String) : encode (s ++ t) = encode s ++ encode t := by
  simp [encode_eq]

theorem decode_encode_append (s : String) (rest : List UInt8) :
    decode (encode s ++ rest) = s.toList ++ decode rest := by
  rw [encode_eq]
  induction s.toList with
  | nil => rfl
  | cons c cs ih =>
    rw [List.flatMap_cons, List.append_assoc, decode, pieces_utf8EncodeChar_append, List.map_cons,
      ← decode, ih]
    rfl

theorem decode_encode (s : String) : decode (encode s) = s.toList := by
  simpa [decode] using decode_encode_append s []

/-- A text is determined by its bytes. -/
theorem encode_injective : Function.Injective encode := fun s t he =>
  String.toList_inj.1 (by rw [← decode_encode s, he, decode_encode])

/-- A byte below `0x80` in the bytes of a text is a character of the text. -/
theorem exists_char_of_mem_encode {b : UInt8} (hb : b < 0x80) {s : String} (hmem : b ∈ encode s) :
    ∃ c ∈ s.toList, c.toNat = b.toNat := by
  rw [encode_eq, List.mem_flatMap] at hmem
  obtain ⟨c, hc, hbc⟩ := hmem
  refine ⟨c, hc, ?_⟩
  simp only [UInt8.lt_iff_toNat_lt, UInt8.reduceToNat] at hb
  -- every byte of a character's form of two bytes or more is `0x80` or above
  unfold String.utf8EncodeChar at hbc
  simp only [Char.toNat_val] at hbc
  split_ifs at hbc with h1 h2 h3
  · rw [List.mem_singleton.1 hbc, toNat_ofNat_of_lt (by omega)]
  · simp only [List.mem_cons, List.not_mem_nil, or_false] at hbc
    rcases hbc with rfl | rfl <;> rw [toNat_ofNat_of_lt (by omega)] at hb <;> omega
  · simp only [List.mem_cons, List.not_mem_nil, or_false] at hbc
    rcases hbc with rfl | rfl | rfl <;> rw [toNat_ofNat_of_lt (by omega)] at hb <;> omega
  · simp only [List.mem_cons, List.not_mem_nil, or_false] at hbc
    rcases hbc with rfl | rfl | rfl | rfl <;> rw [toNat_ofNat_of_lt (by omega)] at hb <;> omega

/-- A character below `0x80` whose byte is among the bytes of a text is a character of the
text. -/
theorem mem_toList_of_mem_encode {b : UInt8} (hb : b < 0x80) {c : Char} (hbc : c.toNat = b.toNat)
    {s : String} (hmem : b ∈ encode s) : c ∈ s.toList := by
  obtain ⟨c', hc', hcode⟩ := exists_char_of_mem_encode hb hmem
  have hcc : c' = c := Char.toNat_inj.1 (hcode.trans hbc.symm)
  exact hcc ▸ hc'

/-! ## Characters below `0x80` -/

/-- A character read from a number of `0x80` or more is not below `0x80`, NUL apart. -/
theorem le_toNat_ofNat {n : Nat} (hn : 0x80 ≤ n) (hpos : 0 < (Char.ofNat n).toNat) :
    0x80 ≤ (Char.ofNat n).toNat := by
  rw [Char.toNat_ofNat] at hpos ⊢
  split_ifs at hpos ⊢
  · exact hn
  · exact absurd hpos (Nat.lt_irrefl 0)

/-- A character below `0x80` other than NUL reads only from its own byte. -/
theorem exists_byte_of_mem_decode {c : Char} (hc0 : 0 < c.toNat) (hc : c.toNat < 0x80)
    {bs : List UInt8} (hmem : c ∈ decode bs) : ∃ b ∈ bs, b.toNat = c.toNat := by
  unfold decode at hmem
  -- a multi-byte form reads as a character of `0x80` or more, a stray byte as U+FFFD
  have hwide : ∀ n, 0x80 ≤ n → Char.ofNat n ≠ c := by
    rintro n hn rfl
    exact absurd hc (Nat.not_lt.2 (le_toNat_ofNat hn hc0))
  have hstray : replacement ≠ c := by
    rintro rfl
    exact absurd hc (by decide)
  fun_induction pieces bs with
  | case1 => simp at hmem
  | case2 b0 r h0 ih =>
    simp only [List.map_cons, List.mem_cons] at hmem
    rcases hmem with heq | hmem
    · refine ⟨b0, List.mem_cons_self, ?_⟩
      rw [heq, Piece.toChar, Char.toNat_ofNat, if_pos]
      simp only [UInt8.lt_iff_toNat_lt, UInt8.reduceToNat] at h0
      exact .inl (by omega)
    · obtain ⟨b, hb, hbc⟩ := ih hmem
      exact ⟨b, List.mem_cons_of_mem _ hb, hbc⟩
  | case3 b0 h0 h2 b1 r1 ht ih =>
    simp only [List.map_cons, List.mem_cons] at hmem
    rcases hmem with heq | hmem
    · refine absurd heq.symm (hwide _ ?_)
      simp only [Bool.and_eq_true, decide_eq_true_eq, UInt8.le_iff_toNat_le,
        UInt8.reduceToNat] at h2
      omega
    · obtain ⟨b, hb, hbc⟩ := ih hmem
      exact ⟨b, by simp [hb], hbc⟩
  | case5 b0 h0 h2 =>
    simp only [List.map_cons, List.map_nil, List.mem_singleton] at hmem
    exact absurd hmem.symm hstray
  | case6 b0 h0 h2 h3 b1 b2 r2 hv ih =>
    simp only [List.map_cons, List.mem_cons] at hmem
    rcases hmem with heq | hmem
    · refine absurd heq.symm (hwide _ ?_)
      simp only [Bool.and_eq_true, decide_eq_true_eq, UInt8.le_iff_toNat_le,
        UInt8.reduceToNat, within_secondRange_iff] at h3 hv
      simp only [tailBits]
      split_ifs at hv <;> omega
    · obtain ⟨b, hb, hbc⟩ := ih hmem
      exact ⟨b, by simp [hb], hbc⟩
  | case9 b0 h0 h2 h3 h4 b1 b2 b3 r3 hv ih =>
    simp only [List.map_cons, List.mem_cons] at hmem
    rcases hmem with heq | hmem
    · refine absurd heq.symm (hwide _ ?_)
      simp only [Bool.and_eq_true, decide_eq_true_eq, UInt8.le_iff_toNat_le,
        UInt8.reduceToNat, within_secondRange_iff] at h4 hv
      simp only [tailBits]
      split_ifs at hv <;> omega
    · obtain ⟨b, hb, hbc⟩ := ih hmem
      exact ⟨b, by simp [hb], hbc⟩
  | case4 _ _ _ _ _ _ ih | case7 _ _ _ _ _ _ _ _ ih | case8 _ _ _ _ _ _ ih
  | case10 _ _ _ _ _ _ _ _ _ _ ih | case11 _ _ _ _ _ _ _ ih | case12 _ _ _ _ _ _ ih =>
    -- the first piece is a stray byte, and reading goes on at the next byte
    simp only [List.map_cons, List.mem_cons] at hmem
    rcases hmem with heq | hmem
    · exact absurd heq.symm hstray
    · obtain ⟨b, hb, hbc⟩ := ih hmem
      exact ⟨b, List.mem_cons_of_mem _ hb, hbc⟩

end DeliveryFleet.Utf8
