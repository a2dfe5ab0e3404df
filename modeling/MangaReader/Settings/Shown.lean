import MangaReader.Output.Outline
import MangaReader.Output.Report
import MangaReader.Settings.Basic

/-!
# Settings as they are shown

* `Profile.value`, `Settings.value` : settings as data.
* `Settings.report` : settings as a result.
-/

namespace MangaReader

open Output Json

def Profile.textValue (s : Option String) : Value := (s.map Value.string).getD .null

def Profile.countValue (n : Option Nat) : Value :=
  (n.map fun n => Value.number (.integer n)).getD .null

def Profile.flagValue (b : Option Bool) : Value := (b.map Value.bool).getD .null

def Profile.value (p : Profile) : Value :=
  .object
    [("server", .string p.server), ("site", .string p.site.name),
      ("public_prefix", textValue p.publicPath), ("storage_prefix", textValue p.storagePath),
      ("session_cookie", textValue p.cookie), ("session_cookie_env", textValue p.cookieVariable),
      ("ca_cert", textValue p.caFile), ("insecure", flagValue p.insecure),
      ("timeout", countValue p.timeout), ("stream_timeout", countValue p.streamTimeout),
      ("record_history", flagValue p.recordHistory)]

def Defaults.value (d : Defaults) : Value :=
  .object
    [("output", .string d.output), ("color", .string d.color), ("insecure", .bool d.insecure),
      ("timeout", .number (.integer d.timeout)),
      ("stream_timeout", .number (.integer d.streamTimeout))]

def Settings.value (s : Settings) : Value :=
  .object
    [("default_profile", Profile.textValue s.defaultProfile), ("defaults", s.defaults.value),
      ("profiles", .object (s.profiles.entries.map fun p => (p.1, p.2.value)))]

def Site.outline : Site → Outline
  | .manhuaren => .word "Manhuaren"
  | .copymanga => .word "Copymanga"
  | .mangabat => .word "Mangabat"

def Profile.outline (p : Profile) : Outline :=
  .record "Profile"
    [("server", .quoted p.server), ("site", p.site.outline),
      ("public_prefix", .optional .quoted p.publicPath),
      ("storage_prefix", .optional .quoted p.storagePath),
      ("session_cookie", .optional .quoted p.cookie),
      ("session_cookie_env", .optional .quoted p.cookieVariable),
      ("ca_cert", .optional .path p.caFile), ("insecure", .optional .flag p.insecure),
      ("timeout", .optional .number p.timeout),
      ("stream_timeout", .optional .number p.streamTimeout),
      ("record_history", .optional .flag p.recordHistory)]

def Settings.outline (s : Settings) : Outline :=
  let d := s.defaults
  .record "Config"
    [("default_profile", .optional .quoted s.defaultProfile),
      ("defaults", .record "Defaults"
        [("output", .quoted d.output), ("color", .quoted d.color), ("insecure", .flag d.insecure),
          ("timeout", .number d.timeout), ("stream_timeout", .number d.streamTimeout)]),
      ("profiles", .record "" (s.profiles.entries.map fun p =>
        (Text.Quoted.ofText p.1, p.2.outline)))]

def Settings.report (s : Settings) : Report := ⟨s.value, s.outline.text, "config"⟩

end MangaReader
