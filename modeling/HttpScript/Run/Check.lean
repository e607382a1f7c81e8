import HttpScript.Run.Request

/-! # Checks

What a script demands of a response: its version and status, headers and body where they are
given, and the asserts. Each check gives one `Verdict`, or an error where it could not be made. -/

namespace HttpScript.Run

/-- The most characters of a body that a message shows. -/
def shownLength : Nat := 64

/-- A text, cut if it is long. -/
def shorten (s : String) : String :=
  if s.length ≤ shownLength then s else .ofList (s.toList.take shownLength) ++ "..."

/-- The message about two texts that should have been equal. -/
def unequal (subject actual expected : String) : String :=
  "assert " ++ subject ++ " equals failed\n  actual:   " ++ actual ++ "\n  expected: " ++ expected

/-- The check of a response's version. -/
def checkVersion (v : Script.Located Script.VersionPattern) (r : Http.Response) : Verdict :=
  let actual := r.version.name
  if v.value = .any then ⟨true, "assert http version succeeded", v.position⟩
  else if v.value.name = actual then
    ⟨true, "assert http version equals " ++ actual ++ " succeeded", v.position⟩
  else ⟨false, unequal "http version" actual v.value.name, v.position⟩

/-- The check of a response's status. -/
def checkStatus (s : Script.Located Script.StatusPattern) (r : Http.Response) : Verdict :=
  match s.value with
  | .any => ⟨true, "assert status code equals * succeeded", s.position⟩
  | .code c =>
    if c = r.status then
      ⟨true, "assert status code equals " ++ toString c.toNat ++ " succeeded", s.position⟩
    else ⟨false, unequal "status code" (toString r.status.toNat) (toString c.toNat), s.position⟩

/-- The check of a header: one of its values is the expected one. -/
def checkHeader (f : Script.Field) (x : Exchange) : Except Error Verdict := do
  let expected ← fillText x.store f.value
  let received := x.response.header f.key
  if received.contains expected then
    return ⟨true, "assert header " ++ f.key ++ " succeeded", f.position⟩
  else
    return ⟨false, unequal ("header " ++ f.key) (", ".intercalate received) expected, f.position⟩

/-- The check of a body, once all content codings have been undone. -/
def checkBody (b : Script.Body) (x : Exchange) (m : Material) : Except Error Verdict := do
  let expected ← fillContent m x.store b.content
  let actual ← x.response.content.mapError fun e => .body e b.position
  if actual = expected then return ⟨true, "assert body equals succeeded", b.position⟩
  else
    return ⟨false, unequal "body" (shorten (Bytes.Utf8.decodeLossy actual))
      (shorten (Bytes.Utf8.decodeLossy expected)), b.position⟩

/-- How a message about an assert begins. -/
def subject (a : Script.Assert) : String :=
  "assert " ++ a.query.source.name ++ " " ++ (if a.predicate.negated then "not " else "") ++
    a.predicate.condition.name

/-- The check of an assert. A query that fails fails the assert, except for a placeholder. -/
def checkAssert (a : Script.Assert) (x : Exchange) : Except Error Verdict :=
  match a.query.eval x with
  | .error (.placeholder e) => .error (.placeholder e)
  | .error fault => .ok ⟨false, subject a ++ " failed, " ++ fault.message, a.position⟩
  | .ok actual => do
    let j ← (judge a.predicate.condition a.predicate.negated actual x.store).mapError .placeholder
    let state := if j.succeeded then "succeeded" else "failed"
    return ⟨j.succeeded, subject a ++ " " ++ state ++ "\n  actual:   " ++ j.actual ++
      "\n  expected: " ++ j.expected, a.position⟩

/-- The checks that an expected response stands for, in order. -/
def checkExpected (r : Script.Response) (x : Exchange) (m : Material) :
    List (Except Error Verdict) :=
  .ok (checkVersion r.version x.response) :: .ok (checkStatus r.status x.response) ::
    (r.headers.map fun f => checkHeader f x) ++ (r.body.toList.map fun b => checkBody b x m)

/-- **All checks of an entry**, in order. -/
def checks (e : Script.Entry) (x : Exchange) (m : Material) : List (Except Error Verdict) :=
  (e.response.elim [] fun r => checkExpected r x m) ++ e.asserts.map fun a => checkAssert a x

end HttpScript.Run
