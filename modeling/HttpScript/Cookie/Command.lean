import HttpScript.Cookie.Store
import HttpScript.Text.Infix

/-! # Commands on the cookie store

A comment before a request can be a command: `# @cookie_storage_clear` empties the cookie store, and
`# @cookie_storage_set:` with seven words adds a cookie to it. Any other comment is no command. -/

namespace HttpScript.Cookie

/-- A cookie as a command gives it. -/
structure Setting where
  domain : String
  includeSubdomains : Bool
  path : String
  httpOnly : Bool
  /-- When it ends; zero if it ends with the run. -/
  expires : Nat
  name : String
  value : String
  deriving DecidableEq, Repr, Inhabited

/-- A command on the cookie store. -/
inductive Command
  | clear
  | set (setting : Setting)
  deriving DecidableEq, Repr, Inhabited

namespace Command

/-- The comment that empties the store. -/
def clearText : List Char := "# @cookie_storage_clear".toList

/-- What a comment that adds a cookie begins with. -/
def setText : List Char := "# @cookie_storage_set:".toList

/-- **The command that a comment is**, if it is one. -/
def read? (comment : String) : Option Command :=
  let l := comment.toList
  if Text.trim l = clearText then some clear
  else if setText.isPrefixOf l then
    match Text.words (l.drop setText.length) with
    | [domain, subdomains, path, httpOnly, expires, name, value] => do
      let expires ← Decimal.nat64? expires
      return set {
        domain := .ofList domain
        includeSubdomains := subdomains == "TRUE".toList
        path := .ofList path
        httpOnly := httpOnly == "TRUE".toList
        expires := expires
        name := .ofList name
        value := .ofList value }
    | _ => none
  else none

/-- The wording of a command. -/
def message : Command → String
  | clear => "cookie_storage_clear"
  | set s => "cookie_storage_set(" ++ s.name ++ " for " ++ s.domain ++ s.path ++ ")"

end Command

/-- The cookie that a command adds: the mark for the transport alone counts as that of secrecy. -/
def ofSetting (s : Setting) : Cookie where
  domain := s.domain
  includeSubdomains := s.includeSubdomains
  path := s.path
  secure := s.httpOnly
  expires := if s.expires = 0 then none else some s.expires
  name := s.name
  value := s.value

end HttpScript.Cookie
