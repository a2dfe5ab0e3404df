import MangaReader.Command.Configure

/-!
# What single actions do

* `Action.run_bind` : one action after another.
* `Action.run_check_ok`, `Action.run_settings`, `Action.run_machine`, `Action.run_note`,
  `Action.run_say`, `Action.run_report`, `Action.run_ask`, `Action.run_library` : single actions.
* `run_save`, `run_assign` : keeping the settings, and setting a key of a profile.
-/

namespace MangaReader.Command

def written (text : String) : String := if text.isEmpty then "" else text ++ "\n"

namespace Action

variable {α β : Type}

/-- **One action after another** goes on where the first one ends, or ends where it fails. -/
theorem run_bind (a : Action α) (next : α → Action β) (session : Session) :
    (a >>= next).run session =
      match a.run session with
      | (.ok x, session) => (next x).run session
      | (.error e, session) => (.error e, session) := by
  show (match a.run session with
    | (x, session) => (ExceptT.bindCont next x).run session) = _
  rcases a.run session with ⟨_ | _, _⟩
  · rfl
  · rfl

theorem run_check_ok {ε : Type} (error : ε → CommandError) (a : α) (session : Session) :
    (check error (.ok a)).run session = (.ok a, session) := rfl

theorem run_check_error {ε : Type} (error : ε → CommandError) (e : ε) (session : Session) :
    (check error (.error e : Except ε α)).run session = (.error (error e), session) := rfl

theorem run_settings (session : Session) :
    settings.run session = (.ok (Settings.loadOrDefault session.machine), session) := rfl

theorem run_machine (session : Session) :
    machine.run session = (.ok session.machine, session) := rfl

theorem run_note (line : String) (session : Session) :
    (note line).run session =
      (.ok (), { session with notes := session.notes ++ line ++ "\n" }) := rfl

theorem run_get (session : Session) : (get : Action Session).run session = (.ok session, session) :=
  rfl

theorem run_modify (f : Session → Session) (session : Session) :
    (modify f : Action Unit).run session = (.ok (), f session) := rfl

theorem run_ask (error : ReadError → CommandError) (e : Exchange ReadError α) (session : Session) :
    (ask error e).run session =
      ((e session.backend).1.mapError error,
        { session with backend := (e session.backend).2 }) := by
  unfold ask
  simp only [run_bind, run_get]
  rcases e session.backend with ⟨_ | _, _⟩
  · rfl
  · rfl

theorem run_library (o : Options) (manga : Int) (session : Session) :
    (library o manga).run session =
      ((o.readerSettings session.machine manga).bind fun r =>
        (Library.connect session.machine.files r.access r.assets r.server).mapError .ofRead,
        session) := by
  unfold library
  simp only [run_bind, run_machine]
  cases o.readerSettings session.machine manga with
  | error e => rfl
  | ok r =>
    simp only [run_check_ok, Except.bind]
    cases Library.connect session.machine.files r.access r.assets r.server with
    | error e => rfl
    | ok library => rfl

theorem run_say_eq (o : Options) (line : String) (session : Session) :
    (say o line).run session =
      (.ok (), { session with
        notes := session.notes ++ if o.quiet then "" else line ++ "\n" }) := by
  rw [say]
  cases o.quiet with
  | true =>
    simp only [if_true, String.append_empty]
    rfl
  | false =>
    simp only [Bool.false_eq_true, if_false, ← String.append_assoc]
    rfl

theorem run_say {o : Options} (hloud : o.quiet = false) (line : String) (session : Session) :
    (say o line).run session =
      (.ok (), { session with notes := session.notes ++ line ++ "\n" }) := by
  rw [run_say_eq, hloud, if_neg (by decide), String.append_assoc]

theorem run_report_eq (o : Options) (r : Output.Report) (session : Session) :
    (report o r).run session =
      (.ok (), { session with
        output := session.output ++ if o.quiet then "" else written (r.text o.output) }) := by
  rw [report, written]
  cases o.quiet with
  | true =>
    simp only [Bool.true_or, if_true, String.append_empty]
    rfl
  | false =>
    rw [Bool.false_or]
    cases (r.text o.output).isEmpty with
    | true =>
      simp only [if_true, Bool.false_eq_true, if_false, String.append_empty]
      rfl
    | false =>
      simp only [Bool.false_eq_true, if_false, ← String.append_assoc]
      rfl

theorem run_report {o : Options} (hloud : o.quiet = false) (r : Output.Report) (session : Session) :
    (report o r).run session =
      (.ok (), { session with output := session.output ++ written (r.text o.output) }) := by
  rw [run_report_eq, hloud, if_neg (by decide)]

end Action

open Command.Action

theorem run_save (s : Settings) (session : Session) :
    (save s).run session =
      match s.saveTo session.machine.files session.machine.settingsPath with
      | .error e => (.error (.ofSettings e), session)
      | .ok files => (.ok (), { session with machine := { session.machine with files } }) := by
  unfold save
  simp only [run_bind, run_machine]
  cases s.saveTo session.machine.files session.machine.settingsPath with
  | ok files => simp only [run_check_ok]; rfl
  | error e => simp only [run_check_error]

/-- **Setting a key** writes the file of the settings and says so, or fails and changes nothing. -/
theorem run_assign (o : Options) (name value : String) (session : Session) :
    (assign o name value).run session =
      match SettingKey.ofName? name with
      | none => (.error (unknownKey name), session)
      | some key =>
        let s := Settings.loadOrDefault session.machine
        match s.assign (o.profileName s) key value with
        | .error e => (.error (.ofSettings e), session)
        | .ok s' =>
          match s'.saveTo session.machine.files session.machine.settingsPath with
          | .error e => (.error (.ofSettings e), session)
          | .ok files =>
            (.ok (), { session with
              machine := { session.machine with files }
              notes := session.notes ++
                ("✓ Set " ++ name ++ " on profile '" ++ o.profileName s ++ "'") ++ "\n" }) := by
  unfold assign
  simp only [run_bind, run_settings]
  cases SettingKey.ofName? name with
  | none => rfl
  | some key =>
    simp only [run_bind]
    generalize Settings.loadOrDefault session.machine = s
    cases s.assign (o.profileName s) key value with
    | error e => simp only [run_check_error]
    | ok s' =>
      simp only [run_check_ok, run_save, run_note]
      cases s'.saveTo session.machine.files session.machine.settingsPath with
      | error e => rfl
      | ok files => rfl

end MangaReader.Command
