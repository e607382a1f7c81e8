import HttpScript.Run.Basic

/-! # Making requests

`Script.Request.fill` makes the request that a script describes: placeholders are filled in and
files are read. Of several faults the first counts; the body is made first, then the parts of a
multipart form, the url, headers, parameters and cookies. -/

namespace HttpScript

namespace Run

/-- What requests and checks are made from. -/
structure Material where
  files : Files
  /-- The directory that files of the script are in. -/
  root : String

/-- The text of a template. -/
def fillText (s : Variables) (t : Script.Template) : Except Error String :=
  (t.render s).mapError .placeholder

/-- Fields with their values filled in. -/
def fillFields (s : Variables) (l : List Script.Field) : Except Error Http.Pairs :=
  l.mapM fun f => do return (f.key, ← fillText s f.value)

/-- The content of a file that a script names. -/
def Material.read (m : Material) (name : String) (p : Position) : Except Error (List UInt8) :=
  let path := Path.join m.root name
  (m.files.read path).mapError fun e => .file path e p

/-- The bytes of a body. -/
def fillContent (m : Material) (s : Variables) : Script.Content → Except Error (List UInt8)
  | .json t | .xml t | .raw t => do return Bytes.Utf8.encode (← fillText s t)
  | .base64 l => return l
  | .file name p => m.read name p

/-- The type that goes with a body. -/
def contentType? : Script.Content → Option String
  | .json _ => some "application/json"
  | .xml _ => some "application/xml"
  | _ => none

/-- A body. -/
def fillBody (m : Material) (s : Variables) (b : Script.Body) : Except Error Http.Body := do
  return ⟨← fillContent m s b.content, contentType? b.content⟩

/-- A part of a multipart form. -/
def fillPart (m : Material) (s : Variables) : Script.Part → Except Error Http.Part
  | .text f => do return .text f.key (← fillText s f.value)
  | .file f => do return .file f.key f.filename (← m.read f.filename f.position) f.contentType

end Run

open Run in
/-- **The request that a script describes.** -/
def Script.Request.fill (r : Script.Request) (m : Material) (s : Variables) :
    Except Run.Error Http.Request := do
  let body ← r.body.mapM (fillBody m s)
  let multipart ← r.multipart.mapM (fillPart m s)
  return {
    method := r.method.name
    url := ← fillText s r.url
    headers := ← fillFields s r.headers
    query := ← fillFields s r.query
    form := ← fillFields s r.form
    multipart := multipart
    cookies := ← fillFields s r.cookies
    body := body }

end HttpScript
