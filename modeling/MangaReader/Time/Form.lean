import MangaReader.Json.Form
import MangaReader.Time.Instant

/-!
# Instants in JSON texts

* `Instant.lenient` : an instant or null, with an offset or in universal time.
* `Instant.plain` : an instant with an offset.
-/

namespace MangaReader.Time.Instant

open Json

/-- Reads an instant with an offset, or else one in universal time. -/
def ofEither (text : List Char) : Except TimeFault Instant :=
  match ofStrict text with
  | .ok t => .ok t
  | .error _ => ofNaive text

/-- An instant or null. A text that is no instant is a mistake of the record as a whole. -/
def lenient : Form (Option Instant) where
  read tree :=
    match (Form.optional Form.text).read tree with
    | .error flaw => .error flaw
    | .ok none => .ok none
    | .ok (some text) =>
      match ofEither text.toList with
      | .ok t => .ok (some t)
      | .error fault => .error (.unplaced (.refused fault.message))
  write
    | none => .null
    | some t => .string t.write

def plain : Form Instant where
  read
    | .string (.ok text) stop =>
      match ofRelaxed text.toList with
      | .ok t => .ok t
      | .error fault => .error (.placed ⟨.refused fault.message, stop⟩)
    | tree => tree.unexpected "an RFC 3339 formatted date and time string"
  write t := .string t.write

end MangaReader.Time.Instant
