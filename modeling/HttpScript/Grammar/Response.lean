import HttpScript.Grammar.Body
import HttpScript.Grammar.Predicate
import HttpScript.Grammar.Query

/-! # Captures, asserts and expected responses

The sections that read a response, which may follow a request or the response line, and the rule
for an expected response. -/

namespace HttpScript.Grammar

open Rule Script

/-- A line that captures a value. -/
def capture : Rule Capture := do
  let _ ← leadingLines
  let begin ← position
  let name ← keyString
  colon
  let query ← query
  let _ ← lineEnd
  return ⟨name, query, begin⟩

/-- A line that makes a demand. -/
def assert : Rule Assert := do
  let _ ← leadingLines
  let begin ← position
  let query ← query
  someBlanks
  let predicate ← predicate
  let _ ← lineEnd
  return ⟨query, predicate, begin⟩

/-- The section of captures. -/
def capturesSection : Rule (List Capture) := do
  sectionLine "Captures"
  zeroOrMore capture

/-- The section of asserts. -/
def assertsSection : Rule (List Assert) := do
  sectionLine "Asserts"
  zeroOrMore assert

/-- A section of an expected response. -/
inductive ResponseSection
  | captures (l : List Capture)
  | asserts (l : List Assert)

namespace ResponseSection

/-- The captures of a section. -/
def getCaptures : ResponseSection → List Capture
  | captures l => l
  | _ => []

/-- The asserts of a section. -/
def getAsserts : ResponseSection → List Assert
  | asserts l => l
  | _ => []

end ResponseSection

/-- A section of an expected response. -/
def responseSection : Rule ResponseSection :=
  choice [.captures <$> capturesSection, .asserts <$> assertsSection]

/-- An expected version. -/
def version : Rule (Located VersionPattern) := do
  let begin ← position
  match ← firstOf literal VersionPattern.name VersionPattern.all with
  | some v => return ⟨v, begin⟩
  | none => failAt begin .version

/-- An expected status: any, or a number of 16 bits. -/
def status : Rule (Located StatusPattern) := do
  let begin ← position
  if (← peek) = some '*' then
    let _ ← read
    return ⟨.any, begin⟩
  else
    let l ← readWhile Char.isDigit
    let n := Decimal.natOfDigits l
    if l.isEmpty ∨ UInt16.size ≤ n then failAt begin .status
    return ⟨.code (.ofNat n), begin⟩

/-- An expected response. -/
def response : Rule Response := do
  let _ ← leadingLines
  let begin ← position
  let version ← version
  someBlanks
  let status ← status
  let _ ← lineEnd
  let headers ← zeroOrMore fieldLine
  let sections ← zeroOrMore responseSection
  let body ← optional body
  return {
    position := begin
    version
    status
    headers
    captures := sections.flatMap (·.getCaptures)
    asserts := sections.flatMap (·.getAsserts)
    body }

end HttpScript.Grammar
