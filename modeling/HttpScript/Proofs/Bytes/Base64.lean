import HttpScript.Bytes.Base64
import Mathlib.Data.Nat.Basic

/-! # Base64 reads back

Each character of the alphabet stands for its six bits (`decodeDigit?_encodeDigit`), and none of
them is the padding, so that the four forms of a group cannot be confused. Decoding undoes encoding
(`decode?_encode`). -/

namespace HttpScript.Bytes.Base64

theorem decodeDigit?_encodeDigit : ∀ n < 64, decodeDigit? (encodeDigit n) = some n := by
  decide

theorem encodeDigit_ne_padding : ∀ n < 64, encodeDigit n ≠ '=' := by
  decide

theorem encodeDigit_class : ∀ n < 64, (encodeDigit n).isAlphanum = true ∨ encodeDigit n = '+' ∨
    encodeDigit n = '/' := by
  decide

theorem ofNat_eq {a : UInt8} {n : Nat} (h : n = a.toNat) : UInt8.ofNat n = a := by
  rw [h, UInt8.ofNat_toNat]

/-- **Decoding undoes encoding.** -/
theorem decode?_encode (l : List UInt8) : decode? (encode l) = some l := by
  fun_induction encode l with
  | case1 => rfl
  | case2 a n =>
    have ha := a.toNat_lt
    have h₁ : n / 64 < 64 := by omega
    have h₂ : n % 64 < 64 := by omega
    have hvalue : n / 64 * 64 + n % 64 = n := by omega
    simp only [decode?, decodeDigit?_encodeDigit _ h₁, decodeDigit?_encodeDigit _ h₂,
      Option.bind_eq_bind, Option.bind_some, hvalue]
    rw [if_pos (by omega), ofNat_eq (a := a) (by omega)]
  | case3 a b n =>
    have ha := a.toNat_lt
    have hb := b.toNat_lt
    have h₁ : n / 4096 < 64 := by omega
    have h₂ : n / 64 % 64 < 64 := by omega
    have h₃ : n % 64 < 64 := by omega
    have hvalue : (n / 4096 * 64 + n / 64 % 64) * 64 + n % 64 = n := by omega
    have hne := encodeDigit_ne_padding _ h₃
    simp only [decode?, decodeDigit?_encodeDigit _ h₁, decodeDigit?_encodeDigit _ h₂,
      decodeDigit?_encodeDigit _ h₃, Option.bind_eq_bind, Option.bind_some, hvalue]
    rw [if_pos (by omega), ofNat_eq (a := a) (by omega), ofNat_eq (a := b) (by omega)]
  | case4 a b c l n ih =>
    have ha := a.toNat_lt
    have hb := b.toNat_lt
    have hc := c.toNat_lt
    have h₁ : n / 262144 < 64 := by omega
    have h₂ : n / 4096 % 64 < 64 := by omega
    have h₃ : n / 64 % 64 < 64 := by omega
    have h₄ : n % 64 < 64 := by omega
    have hvalue : ((n / 262144 * 64 + n / 4096 % 64) * 64 + n / 64 % 64) * 64 + n % 64 = n := by
      omega
    have hne := encodeDigit_ne_padding _ h₄
    simp only [decode?, hne, false_implies, implies_true, decodeDigit?_encodeDigit _ h₁,
      decodeDigit?_encodeDigit _ h₂, decodeDigit?_encodeDigit _ h₃, decodeDigit?_encodeDigit _ h₄,
      Option.bind_eq_bind, Option.bind_some, hvalue, ih]
    rw [ofNat_eq (a := a) (by omega), ofNat_eq (a := b) (by omega), ofNat_eq (a := c) (by omega)]

theorem class_of_mem_encode {l : List UInt8} {x : Char} (h : x ∈ encode l) :
    x.isAlphanum = true ∨ x = '+' ∨ x = '/' ∨ x = '=' := by
  have hdigit : ∀ n < 64, x = encodeDigit n →
      x.isAlphanum = true ∨ x = '+' ∨ x = '/' ∨ x = '=' := by
    rintro n hn rfl
    rcases encodeDigit_class n hn with h | h | h
    · exact .inl h
    · exact .inr (.inl h)
    · exact .inr (.inr (.inl h))
  fun_induction encode l with
  | case1 => cases h
  | case2 a n =>
    have ha := a.toNat_lt
    simp only [List.mem_cons, List.not_mem_nil, or_false] at h
    rcases h with h | h | h | h
    · exact hdigit _ (by omega) h
    · exact hdigit _ (by omega) h
    · exact .inr (.inr (.inr h))
    · exact .inr (.inr (.inr h))
  | case3 a b n =>
    have ha := a.toNat_lt
    have hb := b.toNat_lt
    simp only [List.mem_cons, List.not_mem_nil, or_false] at h
    rcases h with h | h | h | h
    · exact hdigit _ (by omega) h
    · exact hdigit _ (by omega) h
    · exact hdigit _ (by omega) h
    · exact .inr (.inr (.inr h))
  | case4 a b c l n ih =>
    have ha := a.toNat_lt
    have hb := b.toNat_lt
    have hc := c.toNat_lt
    simp only [List.mem_cons] at h
    rcases h with h | h | h | h | h
    · exact hdigit _ (by omega) h
    · exact hdigit _ (by omega) h
    · exact hdigit _ (by omega) h
    · exact hdigit _ (by omega) h
    · exact ih h

end HttpScript.Bytes.Base64
