import HttpScript.Proofs.Bytes.Utf8
import HttpScript.Text.Split
import HttpScript.Url.Percent

/-! # Percent signs and form data read back

What is written with percent signs decodes to the bytes of the text (`percentDecode_percentEncode`),
whatever set of characters is written so, as long as the percent sign is one of them. Form data
keeps its separators apart from the names and values between them, so that these can be read back
(`readForm?_formData`). -/

namespace HttpScript.Url

open Bytes (Utf8.encode Utf8.decode? Utf8.encode_singleton Utf8.encode_ofList Utf8.decode?_encode)

/-! ### Percent signs -/

theorem hexValue?_hexDigit : ∀ n < 16, Text.hexValue? (hexDigit n) = some n := by decide

theorem percentDecode_percentByte (b : UInt8) (l : List Char) :
    percentDecode (percentByte b ++ l) = b :: percentDecode l := by
  have hb := b.toNat_lt
  have hvalue : 16 * (b.toNat / 16) + b.toNat % 16 = b.toNat := Nat.div_add_mod _ _
  simp only [percentByte, List.cons_append, List.nil_append, percentDecode,
    hexValue?_hexDigit _ (show b.toNat / 16 < 16 by omega),
    hexValue?_hexDigit _ (show b.toNat % 16 < 16 by omega), hvalue, UInt8.ofNat_toNat]

theorem percentDecode_percentBytes (k : List UInt8) (l : List Char) :
    percentDecode (k.flatMap percentByte ++ l) = k ++ percentDecode l := by
  induction k with
  | nil => rfl
  | cons b k ih => rw [List.flatMap_cons, List.append_assoc, percentDecode_percentByte, ih]; rfl

theorem percentDecode_percentChar (c : Char) (l : List Char) :
    percentDecode (percentChar c ++ l) = String.utf8EncodeChar c ++ percentDecode l := by
  rw [percentChar, Utf8.encode_singleton, percentDecode_percentBytes]

theorem percentDecode_cons {c : Char} (h : c ≠ '%') (l : List Char) :
    percentDecode (c :: l) = String.utf8EncodeChar c ++ percentDecode l := by
  rw [percentDecode.eq_def]
  split
  · rename_i heq
    exact absurd (List.cons.inj heq).1 h
  · rename_i heq
    obtain ⟨rfl, rfl⟩ := List.cons.inj heq
    rw [Utf8.encode_singleton]
  · rename_i heq
    cases heq

theorem isAlphanum_hexDigit : ∀ n < 16, (hexDigit n).isAlphanum = true := by decide

theorem not_mem_percentChar {d : Char} (hpercent : d ≠ '%') (hd : d.isAlphanum = false) (c : Char) :
    d ∉ percentChar c := by
  intro h
  obtain ⟨b, -, h⟩ := List.mem_flatMap.mp h
  have hb := b.toNat_lt
  have hdigit : ∀ n < 16, d ≠ hexDigit n := fun n hn e => by
    rw [e, isAlphanum_hexDigit n hn] at hd
    cases hd
  have hhigh := hdigit (b.toNat / 16) (by omega)
  have hlow := hdigit (b.toNat % 16) (by omega)
  simp [percentByte, hpercent, hhigh, hlow] at h

theorem not_mem_percentEncode {set : Char → Bool} {d : Char} (hset : set d = true)
    (hpercent : d ≠ '%') (hd : d.isAlphanum = false) (l : List Char) : d ∉ percentEncode set l := by
  intro h
  obtain ⟨c, -, h⟩ := List.mem_flatMap.mp h
  split at h
  · exact not_mem_percentChar hpercent hd c h
  · rename_i hc
    exact hc (List.mem_singleton.mp h ▸ hset)

/-- **What is written with percent signs decodes to the bytes of the text.** -/
theorem percentDecode_percentEncode {set : Char → Bool} (h : set '%' = true) (l : List Char) :
    percentDecode (percentEncode set l) = Utf8.encode (.ofList l) := by
  rw [Utf8.encode_ofList]
  induction l with
  | nil => rfl
  | cons c l ih =>
    rw [percentEncode, List.flatMap_cons, ← percentEncode, List.flatMap_cons, ← ih]
    split
    · exact percentDecode_percentChar c _
    · rename_i hc
      have hpercent : c ≠ '%' := fun e => hc (e ▸ h)
      exact percentDecode_cons hpercent _

/-! ### Form data -/

/-- Reads a name or a value of form data, where `+` stands for a space. -/
def readFormText? (l : List Char) : Option String :=
  Utf8.decode? (percentDecode (l.map fun c => if c = '+' then ' ' else c))

/-- Reads a name and a value, which stands behind the first `=`. -/
def readFormPair? (l : List Char) : Option (String × String) := do
  let (name, value) := (Text.splitOnce '=' l).getD (l, [])
  return (← readFormText? name, ← readFormText? value)

/-- **Reads form data**: the names and values between `&`. -/
def readForm? (l : List Char) : Option (List (String × String)) :=
  ((l.splitOn '&').filter (· ≠ [])).mapM readFormPair?

theorem ne_of_not_inForm {c : Char} (h : ¬ inForm c = true) : c ≠ '+' ∧ c ≠ '%' :=
  ⟨fun e => h (e ▸ by decide), fun e => h (e ▸ by decide)⟩

theorem not_mem_formText {d : Char} (hform : inForm d = true) (hplus : d ≠ '+')
    (hpercent : d ≠ '%') (hd : d.isAlphanum = false) (s : String) : d ∉ formText s := by
  intro h
  obtain ⟨c, -, h⟩ := List.mem_flatMap.mp h
  unfold formChar at h
  split at h
  · exact hplus (List.mem_singleton.mp h)
  · split at h
    · exact not_mem_percentChar hpercent hd c h
    · rename_i hc
      exact hc (List.mem_singleton.mp h ▸ hform)

theorem separators_not_mem_formText (s : String) : '&' ∉ formText s ∧ '=' ∉ formText s :=
  ⟨not_mem_formText (by decide) (by decide) (by decide) (by decide) s,
    not_mem_formText (by decide) (by decide) (by decide) (by decide) s⟩

theorem percentDecode_formChar (c : Char) (l : List Char) :
    percentDecode ((formChar c).map (fun d => if d = '+' then ' ' else d) ++ l) =
      String.utf8EncodeChar c ++ percentDecode l := by
  unfold formChar
  split
  · rename_i hspace
    rw [beq_iff_eq.mp hspace]
    exact percentDecode_cons (by decide) l
  · split
    · have hsame : (percentChar c).map (fun d => if d = '+' then ' ' else d) = percentChar c :=
        (List.map_congr_left fun d hd => if_neg fun e =>
          not_mem_percentChar (by decide) (by decide) c (e ▸ hd)).trans (List.map_id _)
      rw [hsame, percentDecode_percentChar]
    · rename_i hc
      obtain ⟨hplus, hpercent⟩ := ne_of_not_inForm hc
      rw [List.map_singleton, if_neg hplus]
      exact percentDecode_cons hpercent l

theorem readFormText?_formText (s : String) : readFormText? (formText s) = some s := by
  have hbytes : ∀ l : List Char, percentDecode
      ((l.flatMap formChar).map fun d => if d = '+' then ' ' else d) =
        l.flatMap String.utf8EncodeChar := by
    intro l
    induction l with
    | nil => rfl
    | cons c l ih => rw [List.flatMap_cons, List.map_append, percentDecode_formChar, ih]; rfl
  rw [readFormText?, formText, hbytes, ← Utf8.encode_ofList, String.ofList_toList,
    Utf8.decode?_encode]

theorem readFormPair?_formPair (p : String × String) : readFormPair? (formPair p) = some p := by
  rw [readFormPair?, formPair, Text.splitOnce_append (separators_not_mem_formText p.1).2]
  simp [readFormText?_formText]

theorem splitOn_formData {l : List (String × String)} (h : l ≠ []) :
    (formData l).splitOn '&' = l.map formPair := by
  refine List.splitOn_intercalate '&' (fun piece hpiece => ?_) (by simpa using h)
  obtain ⟨p, -, rfl⟩ := List.mem_map.mp hpiece
  have hname := (separators_not_mem_formText p.1).1
  have hvalue := (separators_not_mem_formText p.2).1
  simp [formPair, hname, hvalue]

/-- **Form data is read back**: its names and values, in order. -/
theorem readForm?_formData (l : List (String × String)) : readForm? (formData l) = some l := by
  have hread : (l.map formPair).mapM readFormPair? = some l := by
    induction l with
    | nil => rfl
    | cons p l ih => simp [readFormPair?_formPair, ih]
  have hpieces : ((formData l).splitOn '&').filter (· ≠ []) = l.map formPair := by
    by_cases hl : l = []
    · rw [hl]
      rfl
    · rw [splitOn_formData hl, List.filter_eq_self.mpr]
      intro piece hpiece
      obtain ⟨p, -, rfl⟩ := List.mem_map.mp hpiece
      simp [formPair]
  rw [readForm?, hpieces, hread]

end HttpScript.Url
