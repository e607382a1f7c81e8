import HttpScript.Bytes.Utf8
import Mathlib.Tactic.SplitIfs

/-! # UTF-8 reads back

The bytes of a text are those of its characters, and each of the four forms of a character is read
back in front of any bytes (`units_utf8EncodeChar`). So decoding undoes encoding
(`decode?_encode`). -/

namespace HttpScript.Bytes.Utf8

/-! ### The bytes of a text -/

theorem encode_ofList (l : List Char) :
    encode (.ofList l) = l.flatMap String.utf8EncodeChar := by
  unfold encode
  rw [String.toUTF8_eq_toByteArray, String.toByteArray_ofList, List.utf8Encode,
    List.toList_data_toByteArray]

theorem encode_singleton (c : Char) : encode (.singleton c) = String.utf8EncodeChar c := by
  rw [String.singleton_eq_ofList, encode_ofList, List.flatMap_singleton]

theorem encode_append (s t : String) : encode (s ++ t) = encode s ++ encode t := by
  rw [← String.ofList_toList (s := s), ← String.ofList_toList (s := t), ← String.ofList_append,
    encode_ofList, encode_ofList, encode_ofList, List.flatMap_append]

/-! ### Characters of several bytes -/

/-- **A byte that may follow a first one** of a character of `n + 1` bytes. -/
def Follows (b : UInt8) (n : Nat) (x : UInt8) : Prop :=
  ∃ low high, lead? b = some (n, low, high) ∧ low ≤ x ∧ x ≤ high

theorem follows_of_two {b x : UInt8} (hb : 0xC2 ≤ b.toNat ∧ b.toNat ≤ 0xDF)
    (hx : 0x80 ≤ x.toNat ∧ x.toNat ≤ 0xBF) : Follows b 1 x := by
  refine ⟨0x80, 0xBF, ?_, ?_⟩
  · simp [lead?, UInt8.le_iff_toNat_le, hb]
  · simpa [UInt8.le_iff_toNat_le] using hx

theorem follows_of_three {b x : UInt8} (hb : 0xE0 ≤ b.toNat ∧ b.toNat ≤ 0xEF)
    (hx : 0x80 ≤ x.toNat ∧ x.toNat ≤ 0xBF) (hlow : b.toNat = 0xE0 → 0xA0 ≤ x.toNat)
    (hhigh : b.toNat = 0xED → x.toNat ≤ 0x9F) : Follows b 2 x := by
  unfold Follows lead?
  simp only [UInt8.le_iff_toNat_le, ← UInt8.toNat_inj, UInt8.reduceToNat]
  split_ifs <;> first
    | omega
    | exact ⟨_, _, rfl, by simp; omega, by simp; omega⟩

theorem follows_of_four {b x : UInt8} (hb : 0xF0 ≤ b.toNat ∧ b.toNat ≤ 0xF4)
    (hx : 0x80 ≤ x.toNat ∧ x.toNat ≤ 0xBF) (hlow : b.toNat = 0xF0 → 0x90 ≤ x.toNat)
    (hhigh : b.toNat = 0xF4 → x.toNat ≤ 0x8F) : Follows b 3 x := by
  unfold Follows lead?
  simp only [UInt8.le_iff_toNat_le, ← UInt8.toNat_inj, UInt8.reduceToNat]
  split_ifs <;> first
    | omega
    | exact ⟨_, _, rfl, by simp; omega, by simp; omega⟩

/-- A character whose bytes stand in front of others is read as what they assemble to. -/
theorem units_of_follows {b x : UInt8} {t : List UInt8} (hb : 0x80 ≤ b.toNat)
    (hx : Follows b (t.length + 1) x) (ht : ∀ y ∈ t, 0x80 ≤ y.toNat ∧ y.toNat ≤ 0xBF)
    (l : List UInt8) :
    units (b :: x :: (t ++ l)) = some (assemble b (t.length + 1) (x :: t)) :: units l := by
  obtain ⟨low, high, hlead, hbounds⟩ := hx
  have htail : continuation (t.length + 1) low high (x :: (t ++ l)) = x :: t := by
    have hall : ∀ y ∈ t, (0x80 ≤ y && y ≤ 0xBF) = true := fun y hy => by
      simpa [UInt8.le_iff_toNat_le] using ht y hy
    rw [continuation, if_pos hbounds, List.takeWhile_append_of_pos hall]
    simp
  have hmany : ¬ b < 0x80 := by simpa [UInt8.lt_iff_toNat_lt] using hb
  rw [units, if_neg hmany, hlead]
  dsimp only
  rw [htail]
  simp

theorem units_utf8EncodeChar (c : Char) (l : List UInt8) :
    units (String.utf8EncodeChar c ++ l) = some c :: units l := by
  have hback : Char.ofNat c.val.toNat = c := Char.ofNat_toNat c
  have hvalid : c.val.toNat < 0xD800 ∨ 0xDFFF < c.val.toNat ∧ c.val.toNat < 0x110000 := c.valid
  have hbyte : ∀ n < 256, (UInt8.ofNat n).toNat = n := fun n hn =>
    UInt8.toNat_ofNat_of_lt' hn
  fun_cases String.utf8EncodeChar c with
  | case1 v h =>
    have hone : UInt8.ofNat v < 0x80 := by
      rw [UInt8.lt_iff_toNat_lt, hbyte v (by omega)]
      exact Nat.lt_succ_of_le h
    rw [List.singleton_append, units, if_pos hone, hbyte v (by omega), hback]
  | case2 v h h' =>
    have hb := hbyte (v / 64 % 32 + 192) (by omega)
    have hx := hbyte (v % 64 + 128) (by omega)
    have hfollows : Follows (.ofNat (v / 64 % 32 + 192)) 1 (.ofNat (v % 64 + 128)) :=
      follows_of_two (by omega) (by omega)
    refine (units_of_follows (t := []) (by omega) hfollows (by simp) l).trans ?_
    have hvalue : assemble (.ofNat (v / 64 % 32 + 192)) 1 [.ofNat (v % 64 + 128)] = c := by
      simp only [assemble, List.foldl_cons, List.foldl_nil, hb, hx, Nat.reduceSub, Nat.pow_eq,
        Nat.reducePow]
      rw [← hback]
      congr 1
      omega
    rw [← hvalue]
    rfl
  | case3 v h h' h'' =>
    have hb := hbyte (v / 4096 % 16 + 224) (by omega)
    have hx := hbyte (v / 64 % 64 + 128) (by omega)
    have hy := hbyte (v % 64 + 128) (by omega)
    have hfollows : Follows (.ofNat (v / 4096 % 16 + 224)) 2 (.ofNat (v / 64 % 64 + 128)) :=
      follows_of_three (by omega) (by omega) (by omega) (by omega)
    refine (units_of_follows (t := [_]) (by omega) hfollows (by simp; omega) l).trans ?_
    have hvalue : assemble (.ofNat (v / 4096 % 16 + 224)) 2
        [.ofNat (v / 64 % 64 + 128), .ofNat (v % 64 + 128)] = c := by
      simp only [assemble, List.foldl_cons, List.foldl_nil, hb, hx, hy, Nat.reduceSub, Nat.pow_eq,
        Nat.reducePow]
      rw [← hback]
      congr 1
      omega
    rw [← hvalue]
    rfl
  | case4 v h h' h'' =>
    have hb := hbyte (v / 262144 % 8 + 240) (by omega)
    have hx := hbyte (v / 4096 % 64 + 128) (by omega)
    have hy := hbyte (v / 64 % 64 + 128) (by omega)
    have hz := hbyte (v % 64 + 128) (by omega)
    have hfollows : Follows (.ofNat (v / 262144 % 8 + 240)) 3 (.ofNat (v / 4096 % 64 + 128)) :=
      follows_of_four (by omega) (by omega) (by omega) (by omega)
    refine (units_of_follows (t := [_, _]) (by omega) hfollows (by simp; omega) l).trans ?_
    have hvalue : assemble (.ofNat (v / 262144 % 8 + 240)) 3
        [.ofNat (v / 4096 % 64 + 128), .ofNat (v / 64 % 64 + 128), .ofNat (v % 64 + 128)] = c := by
      simp only [assemble, List.foldl_cons, List.foldl_nil, hb, hx, hy, hz, Nat.reduceSub,
        Nat.pow_eq, Nat.reducePow]
      rw [← hback]
      congr 1
      omega
    rw [← hvalue]
    rfl

/-! ### Texts -/

theorem units_flatMap (l : List Char) : units (l.flatMap String.utf8EncodeChar) = l.map some := by
  induction l with
  | nil => simp [units]
  | cons c l ih => rw [List.flatMap_cons, units_utf8EncodeChar, ih, List.map_cons]

/-- **Decoding undoes encoding.** -/
theorem decode?_encode (s : String) : decode? (encode s) = some s := by
  have hunits : units (encode s) = s.toList.map some := by
    rw [← units_flatMap, ← encode_ofList, String.ofList_toList]
  have hall : (s.toList.map some).mapM id = some s.toList := by
    induction s.toList with
    | nil => rfl
    | cons c l ih => simp [ih]
  rw [decode?, hunits, hall, Option.map_some, String.ofList_toList]

end HttpScript.Bytes.Utf8
