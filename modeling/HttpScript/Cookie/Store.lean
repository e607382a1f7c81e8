import HttpScript.Cookie.Basic

/-! # The cookie store

A `CookieStore` keeps one cookie for each domain, path and name, in the order in which they were
last added. -/

namespace HttpScript

/-- The cookies that are kept. -/
structure CookieStore where
  cookies : List Cookie
  deriving DecidableEq, Repr, Inhabited

namespace CookieStore

/-- No cookies. -/
def empty : CookieStore := ⟨[]⟩

/-- Adds a cookie in the place of one with the same domain, path and name. One that has ended is not
kept. -/
def add (s : CookieStore) (now : Nat) (c : Cookie) : CookieStore :=
  let others := s.cookies.filter fun d => !d.sameKey c
  ⟨if c.isExpired now then others else others ++ [c]⟩

/-- Adds the cookie of a header, if there is one in it. The header was received at `received`, from
where its age counts; the cookie is added at `now`. -/
def addHeader (s : CookieStore) (received now : Nat) (u : Url) (header : String) :
    Except Cookie.Date.Fault CookieStore :=
  match SetCookie.read? header with
  | none => .ok s
  | some h => (Cookie.expiry h received).map fun expires => s.add now (.ofHeader h u expires)

/-- **Adds the cookies that a response from a URL sets**, in the order of its headers. Each header
stands behind the time at which its cookie is added. The first date whose count leaves the words is
a fault, and with it ends all that goes on. -/
def tryStore (s : CookieStore) (received : Nat) (u : Url) (headers : List (Nat × String)) :
    Except Cookie.Date.Fault CookieStore :=
  headers.foldlM (fun s h => s.addHeader received h.1 u h.2) s

/-- **The names and values that are sent to a URL.** -/
def sentTo (s : CookieStore) (now : Nat) (u : Url) : List (String × String) :=
  (s.cookies.filter fun c => c.isSentTo u now).map fun c => (c.name, c.value)

end CookieStore

end HttpScript
