import HttpScript.Http.Multipart
import HttpScript.Proofs.Url.Form

/-! # The parts of a form

What the bytes of a form of several parts say: the name of each part, as it is written or by what
its percent signs decode to, the name of its file up to the quote that closes it, and its content
between a header and a boundary.

* `Multipart.Names`, `Multipart.readQuoted?`: how names and file names are read.
* `Multipart.Heads`, `Multipart.Holds`: the header of a part, and the bytes that hold parts.
* `Multipart.holds_body`: the body of a form holds its parts. -/

namespace HttpScript.Http

open Bytes (Utf8.encode Utf8.decode? Utf8.encode_append Utf8.decode?_encode)

/-- The content of a part. -/
def Part.content : Part → List UInt8
  | .text _ value => Utf8.encode value
  | .file _ _ content _ => content

namespace Multipart

/-- **A text that gives a part its name.** -/
inductive Names (name : String) : String → Prop
  /-- The name itself stands in quotes. -/
  | plain (h : '"' ∉ name.toList) : Names name ("name=\"" ++ name ++ "\"")
  /-- The name is decoded. -/
  | encoded {s : String} (h : Utf8.decode? (Url.percentDecode s.toList) = some name) :
      Names name ("name*=utf-8''" ++ s)

/-- Reads to the quote that closes a text, in which a backslash stands before a character that is
taken as it is. -/
def readQuoted? : List Char → Option (List Char × List Char)
  | '"' :: l => some ([], l)
  | '\\' :: c :: l => (readQuoted? l).map fun p => (c :: p.1, p.2)
  | c :: l => (readQuoted? l).map fun p => (c :: p.1, p.2)
  | [] => none

/-- **A header of a part.** -/
inductive Heads : Part → String → Prop
  | text {name value named : String} (hname : Names name named) :
      Heads (.text name value) ("Content-Disposition: form-data; " ++ named)
  | file {name filename named quoted : String} {content : List UInt8} {type : Option String}
      (hname : Names name named)
      (hfile : ∀ l, readQuoted? (quoted.toList ++ '"' :: l) = some (filename.toList, l)) :
      Heads (.file name filename content type) ("Content-Disposition: form-data; " ++ named ++
        "; filename=\"" ++ quoted ++ "\"" ++ type.elim "" fun t => "\r\nContent-Type: " ++ t)

/-- **Bytes that hold parts**: each one stands behind a boundary, its content behind an empty line,
and one more boundary ends them. -/
inductive Holds (boundary : String) : List Part → List UInt8 → Prop
  | nil : Holds boundary [] (Utf8.encode ("--" ++ boundary ++ "--\r\n"))
  | cons {p : Part} {l : List Part} {head : String} {rest : List UInt8} (hhead : Heads p head)
      (h : Holds boundary l rest) :
      Holds boundary (p :: l) (Utf8.encode ("--" ++ boundary ++ "\r\n" ++ head ++ "\r\n\r\n") ++
        p.content ++ Utf8.encode "\r\n" ++ rest)

theorem names_nameText (name : String) : Names name (nameText name) := by
  have hquote : Url.inSegment '"' = true := by decide
  have hpercent : Url.inSegment '%' = true := by decide
  unfold nameText
  dsimp only
  split
  · rename_i hplain
    refine .plain fun h => ?_
    rw [← hplain] at h
    exact Url.not_mem_percentEncode hquote (by decide) (by decide) _ h
  · refine .encoded ?_
    rw [String.toList_ofList, Url.percentDecode_percentEncode hpercent, String.ofList_toList,
      Utf8.decode?_encode]

theorem readQuoted?_flatMap (l rest : List Char) :
    readQuoted? (l.flatMap filenameChar ++ '"' :: rest) = some (l, rest) := by
  induction l with
  | nil => rfl
  | cons c l ih =>
    rw [List.flatMap_cons, List.append_assoc, filenameChar]
    split
    · simp [readQuoted?, ih]
    · rename_i hc
      simp only [not_or] at hc
      simp [readQuoted?, ih, hc]

/-- The header of a part, as it stands behind a boundary. -/
def head : Part → String
  | .text name _ => header name none none
  | .file name filename _ type => header name (some filename) type

theorem append_regroup (a b c d e f : String) :
    a ++ b ++ (c ++ d ++ e) ++ f = a ++ b ++ c ++ d ++ e ++ f := by
  simp only [String.append_assoc]

theorem heads_head (p : Part) : Heads p (head p) := by
  cases p with
  | text name value =>
    have hhead : head (.text name value) = "Content-Disposition: form-data; " ++ nameText name := by
      show _ ++ nameText name ++ "" ++ "" = _
      rw [String.append_empty, String.append_empty]
    rw [hhead]
    exact .text (names_nameText name)
  | file name filename content type =>
    let quoted := String.ofList (filename.toList.flatMap filenameChar)
    have hhead : head (.file name filename content type) =
        "Content-Disposition: form-data; " ++ nameText name ++ "; filename=\"" ++ quoted ++ "\"" ++
          type.elim "" fun t => "\r\nContent-Type: " ++ t :=
      append_regroup _ _ _ _ _ _
    rw [hhead]
    refine .file (names_nameText name) fun l => ?_
    rw [String.toList_ofList, readQuoted?_flatMap]

theorem part_eq (p : Part) : part p = Utf8.encode (head p ++ "\r\n\r\n") ++ p.content := by
  cases p with
  | text name value => exact Utf8.encode_append _ _
  | file name filename content type => rfl

/-- **The body of a form holds its parts.** -/
theorem holds_body (boundary : String) (l : List Part) : Holds boundary l (body boundary l) := by
  induction l with
  | nil => exact .nil
  | cons p l ih =>
    have hbody : body boundary (p :: l) = Utf8.encode ("--" ++ boundary ++ "\r\n" ++ head p ++
        "\r\n\r\n") ++ p.content ++ Utf8.encode "\r\n" ++ body boundary l := by
      rw [String.append_assoc, Utf8.encode_append, body, List.flatMap_cons, part_eq]
      simp only [body, List.append_assoc]
    rw [hbody]
    exact .cons (heads_head p) ih

end Multipart

end HttpScript.Http
