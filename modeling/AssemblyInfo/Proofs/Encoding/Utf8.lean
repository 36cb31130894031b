import AssemblyInfo.Encoding.Utf8

/-!
# Reading what was written in UTF-8

The bytes of a character are read as that character, whatever follows them, so a text is read from its
bytes unchanged.
-/

namespace AssemblyInfo.Encoding.Utf8

theorem toNat_toUInt8 {n : Nat} (small : n < 256) : n.toUInt8.toNat = n := by
  rw [Nat.toUInt8_eq, UInt8.toNat_ofNat']
  exact Nat.mod_eq_of_lt small

/-- The code points of characters leave out the surrogates. -/
theorem toNat_valid (c : Char) : c.toNat < 0xD800 ∨ (0xDFFF < c.toNat ∧ c.toNat < 0x110000) :=
  c.valid

/-! ### First bytes -/

theorem start_one {n : Nat} (small : n < 0x80) : start n.toUInt8 = ([.char (Char.ofNat n)], none) := by
  have below : n.toUInt8 < 0x80 := by
    rw [UInt8.lt_iff_toNat_lt, toNat_toUInt8 (by omega)]
    exact small
  rw [start, if_pos below, toNat_toUInt8 (by omega)]

theorem start_two : ∀ high < 32, 2 ≤ high →
    start (0xC0 + high).toUInt8 = ([], some ⟨[(0xC0 + high).toUInt8], 0, high, 0x80, 0xBF⟩) := by
  decide

theorem start_three : ∀ high < 16,
    start (0xE0 + high).toUInt8 = ([], some ⟨[(0xE0 + high).toUInt8], 1, high,
      if high = 0 then 0xA0 else 0x80, if high = 13 then 0x9F else 0xBF⟩) := by
  decide

theorem start_four : ∀ high < 5,
    start (0xF0 + high).toUInt8 = ([], some ⟨[(0xF0 + high).toUInt8], 2, high,
      if high = 0 then 0x90 else 0x80, if high = 4 then 0x8F else 0xBF⟩) := by
  decide

/-! ### Bytes that continue a character -/

theorem step_next {pending : Pending} {bits : Nat} (small : bits < 64)
    (above : pending.least.toNat ≤ 0x80 + bits) (below : 0x80 + bits ≤ pending.most.toNat) :
    step (some pending) (0x80 + bits).toUInt8 = pending.next (0x80 + bits).toUInt8 := by
  have value := toNat_toUInt8 (n := 0x80 + bits) (by omega)
  have inside : (pending.least ≤ (0x80 + bits).toUInt8 && (0x80 + bits).toUInt8 ≤ pending.most) = true := by
    rw [Bool.and_eq_true, decide_eq_true_eq, decide_eq_true_eq, UInt8.le_iff_toNat_le,
      UInt8.le_iff_toNat_le, value]
    exact ⟨above, below⟩
  rw [step, if_pos inside]

theorem piecesFrom_last {seen : List UInt8} {high bits : Nat} {least most : UInt8} (small : bits < 64)
    (above : least.toNat ≤ 0x80 + bits) (below : 0x80 + bits ≤ most.toNat) (rest : List UInt8) :
    piecesFrom (some ⟨seen, 0, high, least, most⟩) ((0x80 + bits).toUInt8 :: rest) =
      .char (Char.ofNat (high * 64 + bits)) :: piecesFrom none rest := by
  have value := toNat_toUInt8 (n := 0x80 + bits) (by omega)
  rw [piecesFrom, step_next small above below]
  simp only [Pending.next, value, Nat.add_sub_cancel_left]
  rfl

theorem piecesFrom_more (seen : List UInt8) (after high : Nat) {bits : Nat} {least most : UInt8}
    (small : bits < 64) (above : least.toNat ≤ 0x80 + bits) (below : 0x80 + bits ≤ most.toNat)
    (rest : List UInt8) :
    ∃ longer, piecesFrom (some ⟨seen, after + 1, high, least, most⟩) ((0x80 + bits).toUInt8 :: rest) =
      piecesFrom (some ⟨longer, after, high * 64 + bits, 0x80, 0xBF⟩) rest := by
  have value := toNat_toUInt8 (n := 0x80 + bits) (by omega)
  refine ⟨seen ++ [(0x80 + bits).toUInt8], ?_⟩
  rw [piecesFrom, step_next small above below]
  simp only [Pending.next, value, Nat.add_sub_cancel_left]
  rfl

/-! ### Characters -/

theorem plain_above (n : Nat) : (0x80 : UInt8).toNat ≤ 0x80 + n % 64 :=
  Nat.le_add_right _ _

theorem plain_below (n : Nat) : 0x80 + n % 64 ≤ (0xBF : UInt8).toNat := by
  change 0x80 + n % 64 ≤ 0xBF
  omega

theorem piecesFrom_two {n : Nat} (least : 0x80 ≤ n) (most : n < 0x800) (rest : List UInt8) :
    piecesFrom none ((0xC0 + n / 64).toUInt8 :: (0x80 + n % 64).toUInt8 :: rest) =
      .char (Char.ofNat n) :: piecesFrom none rest := by
  have low := Nat.mod_lt n (by decide : 0 < 64)
  rw [piecesFrom, step, start_two (n / 64) (by omega) (by omega)]
  change [] ++ piecesFrom (some _) _ = _
  rw [List.nil_append, piecesFrom_last low (plain_above n) (plain_below n), Nat.div_add_mod' n 64]

theorem piecesFrom_three {n : Nat} (least : 0x800 ≤ n) (most : n < 0x10000)
    (valid : n < 0xD800 ∨ 0xDFFF < n) (rest : List UInt8) :
    piecesFrom none ((0xE0 + n / 4096).toUInt8 :: (0x80 + n / 64 % 64).toUInt8 ::
      (0x80 + n % 64).toUInt8 :: rest) = .char (Char.ofNat n) :: piecesFrom none rest := by
  have middle := Nat.mod_lt (n / 64) (by decide : 0 < 64)
  have low := Nat.mod_lt n (by decide : 0 < 64)
  have above : (if n / 4096 = 0 then 0xA0 else 0x80 : UInt8).toNat ≤ 0x80 + n / 64 % 64 := by
    split
    · change 0xA0 ≤ 0x80 + n / 64 % 64
      omega
    · exact plain_above (n / 64)
  have below : 0x80 + n / 64 % 64 ≤ (if n / 4096 = 13 then 0x9F else 0xBF : UInt8).toNat := by
    split
    · change 0x80 + n / 64 % 64 ≤ 0x9F
      omega
    · exact plain_below (n / 64)
  have whole : (n / 4096 * 64 + n / 64 % 64) * 64 + n % 64 = n := by omega
  rw [piecesFrom, step, start_three (n / 4096) (by omega)]
  change [] ++ piecesFrom (some _) _ = _
  obtain ⟨seen, second⟩ := piecesFrom_more [(0xE0 + n / 4096).toUInt8] 0 (n / 4096) middle above below
    ((0x80 + n % 64).toUInt8 :: rest)
  rw [List.nil_append, second, piecesFrom_last low (plain_above n) (plain_below n), whole]

theorem piecesFrom_four {n : Nat} (least : 0x10000 ≤ n) (most : n < 0x110000) (rest : List UInt8) :
    piecesFrom none ((0xF0 + n / 262144).toUInt8 :: (0x80 + n / 4096 % 64).toUInt8 ::
      (0x80 + n / 64 % 64).toUInt8 :: (0x80 + n % 64).toUInt8 :: rest) =
      .char (Char.ofNat n) :: piecesFrom none rest := by
  have high := Nat.mod_lt (n / 4096) (by decide : 0 < 64)
  have middle := Nat.mod_lt (n / 64) (by decide : 0 < 64)
  have low := Nat.mod_lt n (by decide : 0 < 64)
  have above : (if n / 262144 = 0 then 0x90 else 0x80 : UInt8).toNat ≤ 0x80 + n / 4096 % 64 := by
    split
    · change 0x90 ≤ 0x80 + n / 4096 % 64
      omega
    · exact plain_above (n / 4096)
  have below : 0x80 + n / 4096 % 64 ≤ (if n / 262144 = 4 then 0x8F else 0xBF : UInt8).toNat := by
    split
    · change 0x80 + n / 4096 % 64 ≤ 0x8F
      omega
    · exact plain_below (n / 4096)
  have whole : ((n / 262144 * 64 + n / 4096 % 64) * 64 + n / 64 % 64) * 64 + n % 64 = n := by omega
  rw [piecesFrom, step, start_four (n / 262144) (by omega)]
  change [] ++ piecesFrom (some _) _ = _
  obtain ⟨seen, second⟩ := piecesFrom_more [(0xF0 + n / 262144).toUInt8] 1 (n / 262144) high above below
    ((0x80 + n / 64 % 64).toUInt8 :: (0x80 + n % 64).toUInt8 :: rest)
  obtain ⟨longer, third⟩ := piecesFrom_more seen 0 (n / 262144 * 64 + n / 4096 % 64) middle
    (plain_above (n / 64)) (plain_below (n / 64)) ((0x80 + n % 64).toUInt8 :: rest)
  rw [List.nil_append, second, third, piecesFrom_last low (plain_above n) (plain_below n), whole]

/-- The bytes of a character are one piece, whatever follows. -/
theorem piecesFrom_encodeChar (c : Char) (rest : List UInt8) :
    piecesFrom none (encodeChar c ++ rest) = .char c :: piecesFrom none rest := by
  have valid := toNat_valid c
  have same := Char.ofNat_toNat c
  unfold encodeChar
  simp only
  split
  · rename_i small
    rw [List.singleton_append, piecesFrom, step, start_one small, same]
    rfl
  · split
    · have two := piecesFrom_two (n := c.toNat) (by omega) (by omega) rest
      rw [same] at two
      exact two
    · split
      · have three := piecesFrom_three (n := c.toNat) (by omega) (by omega) (by omega) rest
        rw [same] at three
        exact three
      · have four := piecesFrom_four (n := c.toNat) (by omega) (by omega) rest
        rw [same] at four
        exact four

theorem pieces_encode (chars : List Char) : pieces (encode chars) = chars.map .char := by
  unfold pieces encode
  induction chars with
  | nil => rfl
  | cons c rest ih => rw [List.flatMap_cons, piecesFrom_encodeChar, ih, List.map_cons]

/-- A text comes back from its bytes. -/
theorem decodeReplacing_encode (chars : List Char) : decodeReplacing (encode chars) = chars := by
  unfold decodeReplacing
  rw [pieces_encode, List.map_map]
  exact List.map_id chars

theorem decode_encode (chars : List Char) : decode (encode chars) = .ok chars := by
  unfold decode
  rw [pieces_encode]
  generalize 0 = position
  induction chars generalizing position with
  | nil => rfl
  | cons c rest ih => rw [List.map_cons, Piece.collect, ih]; rfl

end AssemblyInfo.Encoding.Utf8
