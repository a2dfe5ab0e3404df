import MangaReader.Backend.Record
import MangaReader.Proofs.Json.Object

/-!
# The backend's records are lenient

A record asks for few of its members. Whatever else is missing, null, unknown or out of order in an
answer changes no more than the field that it stands for. That holds of every record type for the
same reason, which is in the laws of its fields.

* `WireRecord` : the record types, with the members that they ask for.
* `LenientField`, `WireRecord.lenient` : the laws of a field, which all fields obey.
* `Lenient` : what may become of the members of a text.
* `wire_records_are_lenient` : **the records of all texts of objects are lenient**.
-/

namespace MangaReader.Backend

open Json Time

/-- The record types of the backend's answers, with the names of the members that must be there and
of those that are flags. -/
inductive WireRecord : {α : Type} → Shape α → List String → List String → Prop
  | chapter : WireRecord ChapterRecord.shape ["id", "title"] []
  | chapterRef : WireRecord ChapterRef.shape [] []
  | header : WireRecord MetaRecord.shape [] []
  | manga : WireRecord MangaRecord.shape ["name"] ["is_fav"]
  | hit : WireRecord SearchHit.shape ["name"] []
  | episode : WireRecord EpisodeRecord.shape ["id", "title"] []
  | episodeRef : WireRecord EpisodeRef.shape [] []
  | video : WireRecord VideoRecord.shape ["vid_path"] []
  | anime : WireRecord AnimeRecord.shape ["name"] []
  | historyAck : WireRecord HistoryAck.shape [] []
  | animeHistoryAck : WireRecord AnimeHistoryAck.shape [] []

/-- What a field holds of which nothing is said: false if it is a flag, none otherwise. -/
inductive Lacking : Bool → (D : Type) → D → Prop
  | none (D : Type) : Lacking false (Option D) none
  | false : Lacking true Bool false

variable {α : Type} {s : Shape α} {required flags : List String}

/-! ### The laws of the fields -/

theorem placeless_lenient : Instant.lenient.Placeless where
  alike {t t'} h := by
    simp only [Instant.lenient]
    obtain ⟨text, htext, htext'⟩ | ⟨e, e', he, he'⟩ :=
      eq_of_toOption_eq (Form.placeless_text.optional.alike h)
    · rw [htext, htext']
    · rw [he, he']
      rfl
  sound {t a} h := by
    simp only [Instant.lenient] at h
    split at h
    · cases h
    · rename_i hread
      exact Form.placeless_text.optional.sound hread
    · rename_i hread
      exact Form.placeless_text.optional.sound hread

theorem optional_null {form : Form α} (stop : Nat) :
    (Form.optional form).read (.null stop) = .ok none := rfl

theorem lenient_null (stop : Nat) : Instant.lenient.read (.null stop) = .ok none := rfl

theorem ChapterRef.placeless : ChapterRef.shape.form.Placeless :=
  Shape.placeless (by simp [shape, Form.placeless_integer.optional, Form.placeless_text.optional])

theorem EpisodeRef.placeless : EpisodeRef.shape.form.Placeless :=
  Shape.placeless (by simp [shape, Form.placeless_integer.optional, Form.placeless_text.optional])

/-- A field of a lenient record. If no member of its name is required, it lacks what is not there,
and null is as good as nothing unless it is a flag. -/
@[mk_iff]
structure LenientField (required flags : List String) (blank : α) (f : Json.Field α) : Prop where
  get_set : ∀ d a, f.get (f.set d a) = d
  placeless : f.form.Placeless
  absence_ne : f.name ∉ required → f.absence ≠ .refused
  lacking : f.name ∉ required → Lacking (f.name ∈ flags) f.Datum (f.get blank)
  read_null : f.name ∉ required → f.name ∉ flags →
    ∀ stop, f.form.read (.null stop) = .ok (f.get blank)

namespace WireRecord

theorem lenient (h : WireRecord s required flags) :
    ∀ f ∈ s.fields, LenientField required flags s.blank f := by
  cases h <;> simp [ChapterRecord.shape, ChapterRef.shape, MetaRecord.shape, MangaRecord.shape,
    SearchHit.shape, EpisodeRecord.shape, EpisodeRef.shape, VideoRecord.shape, AnimeRecord.shape,
    HistoryAck.shape, AnimeHistoryAck.shape, lenientField_iff, Lacking.none, Lacking.false,
    Form.placeless_integer, Form.placeless_text, Form.placeless_flag, Form.Placeless.optional,
    placeless_lenient, optional_null, lenient_null]
  -- The fields that are records themselves.
  case header => exact ChapterRef.placeless.optional
  case manga => exact ChapterRef.placeless.optional
  case anime => exact EpisodeRef.placeless.optional

theorem lawful (h : WireRecord s required flags) : s.Lawful where
  apart := by
    cases h <;> simp [ChapterRecord.shape, ChapterRef.shape, MetaRecord.shape, MangaRecord.shape,
      SearchHit.shape, EpisodeRecord.shape, EpisodeRef.shape, VideoRecord.shape, AnimeRecord.shape,
      HistoryAck.shape, AnimeHistoryAck.shape, Field.apart_iff]
  get_set f hf := (h.lenient f hf).get_set
  ext := by
    cases h <;> rintro ⟨⟩ ⟨⟩ h <;> simpa [ChapterRecord.shape, ChapterRef.shape, MetaRecord.shape,
      MangaRecord.shape, SearchHit.shape, EpisodeRecord.shape, EpisodeRef.shape, VideoRecord.shape,
      AnimeRecord.shape, HistoryAck.shape, AnimeHistoryAck.shape] using h
  placeless f hf := (h.lenient f hf).placeless

end WireRecord

/-! ### The members of a text -/

theorem optional_parse_eq_some_iff {inner : Shape α} {text : String} {a : α} :
    (Form.optional inner.form).parse text = .ok (some a) ↔ inner.form.parse text = .ok a := by
  rw [Form.parse_eq_ok_iff, Form.parse_eq_ok_iff]
  cases (Document.ofText text.toList).tree with
  | null stop => exact ⟨nofun, nofun⟩
  | _ => simp [Form.optional, map_eq_ok_iff]

theorem parse_null {form : Form α} {a : α} (hread : ∀ stop, form.read (.null stop) = .ok a)
    {text : String} (h : Value.parse text = .ok .null) : form.parse text = .ok a := by
  obtain ⟨⟨core, hspells, hframe⟩, -⟩ := Value.parse_eq_ok_iff.mp h
  obtain ⟨hbears, hextra⟩ := Document.ofText_of_spells hspells hframe
  refine Form.parse_eq_ok_iff.mpr ⟨?_, hextra⟩
  generalize (Document.ofText text.toList).tree = t at hbears ⊢
  cases hbears
  exact hread _

/-- What may become of the members of a text that a record is read from. -/
structure Lenient (s : Shape α) (required flags : List String)
    (members : List (String × List Char)) (a : α) : Prop where
  /-- A member that is missing is lacking in its field, and nowhere else. -/
  remove : ∀ f ∈ s.fields, f.name ∉ required → ∀ front value back,
    members = front ++ (f.name, value) :: back →
      ∃ d, Lacking (f.name ∈ flags) f.Datum d ∧ s.Decodes (front ++ back) (f.set d a)
  /-- So is one that is null. -/
  null : ∀ f ∈ s.fields, f.name ∉ required → f.name ∉ flags → ∀ front value back null,
    members = front ++ (f.name, value) :: back → Value.parse null = .ok .null →
      ∃ d, Lacking false f.Datum d ∧
        s.Decodes (front ++ (f.name, null.toList) :: back) (f.set d a)
  /-- Members that are not known may be missing. -/
  forget : ∀ name, (∀ f ∈ s.fields, f.name ≠ name) → ∀ front value back,
    members = front ++ (name, value) :: back → s.Decodes (front ++ back) a
  /-- There may be more of them, whatever their values. -/
  insert : ∀ name, (∀ f ∈ s.fields, f.name ≠ name) → ∀ front back value v,
    members = front ++ back → Value.parse value = .ok v →
      s.Decodes (front ++ (name, value.toList) :: back) a
  /-- All of them may stand in another order. -/
  permute : ∀ members', members'.Perm members → s.Decodes members' a
  /-- A record inside may become another one that its text is read as, and so be lenient itself. -/
  nested : ∀ {β : Type} {inner : Shape β} {required' flags' : List String} (name : String)
    (absence : Absence) (get : α → Option β) (set : Option β → α → α),
    WireRecord inner required' flags' →
      (⟨name, absence, Option β, .optional inner.form, get, set⟩ : Json.Field α) ∈ s.fields →
      ∀ front value back b, members = front ++ (name, value) :: back → get a = some b →
        inner.form.parse (String.ofList value) = .ok b ∧
          ∀ value' b', inner.form.parse value' = .ok b' →
            s.Decodes (front ++ (name, value'.toList) :: back) (set (some b') a)

theorem forall_passes_middle {front back : List (String × List Char)} {m : String × List Char} :
    (∀ n ∈ front ++ m :: back, Passes n.2) ↔ Passes m.2 ∧ ∀ n ∈ front ++ back, Passes n.2 := by
  simp only [List.perm_middle.mem_iff, List.forall_mem_cons]

theorem passes_of_read {form : Form α} (hform : form.Placeless) {value : String} {a : α}
    (h : form.parse value = .ok a) : Passes value.toList := by
  obtain ⟨hread, hextra⟩ := Form.parse_eq_ok_iff.mp h
  exact ⟨hform.sound hread, hextra⟩

/-- **The records of the backend are lenient** with every text of an object that is read as one. -/
theorem wire_records_are_lenient (hs : WireRecord s required flags) {text : String} {a : α}
    (h : s.form.parse text = .ok a)
    (hbrace : (Cursor.start text.toList).skipBlank.rest.head? = some '\x7b') :
    (∃ members, IsObject members text.toList) ∧
      ∀ members, IsObject members text.toList → Lenient s required flags members a := by
  have hlawful := hs.lawful
  refine ⟨Shape.exists_isObject hlawful h hbrace, fun members hmembers => ?_⟩
  have hfills := (Shape.parse_eq_ok_iff hlawful hmembers).mp h
  have hpasses := hmembers.passes
  constructor
  case remove =>
    rintro f hf hname front value back rfl
    have hfield := hs.lenient f hf
    exact ⟨_, hfield.lacking hname,
      (hfills.remove hlawful hf (hfield.absence_ne hname)).decodes hlawful
        (forall_passes_middle.mp hpasses).2⟩
  case null =>
    rintro f hf hname hflag front value back null rfl hnull
    have hfield := hs.lenient f hf
    have hlacking := hfield.lacking hname
    rw [decide_eq_false hflag] at hlacking
    have hread := parse_null (hfield.read_null hname hflag) hnull
    rw [← String.ofList_toList (s := null)] at hread
    exact ⟨_, hlacking, (hfills.replace hlawful hf hread).decodes hlawful
      (forall_passes_middle.mpr ⟨passes_of_parse hnull, (forall_passes_middle.mp hpasses).2⟩)⟩
  case forget =>
    rintro name hname front value back rfl
    exact ((Shape.Fills.unknown_iff hname).mp hfills).decodes hlawful
      (forall_passes_middle.mp hpasses).2
  case insert =>
    rintro name hname front back value v rfl hvalue
    exact ((Shape.Fills.unknown_iff hname).mpr hfills).decodes hlawful
      (forall_passes_middle.mpr ⟨passes_of_parse hvalue, hpasses⟩)
  case permute =>
    intro members' hperm
    exact (hfills.perm hperm).decodes hlawful fun m hm => hpasses m (hperm.mem_iff.mp hm)
  case nested =>
    rintro β inner required' flags' name absence get set hinner hf front value back b rfl hb
    have hread : (Form.optional inner.form).parse (String.ofList value) = .ok (get a) :=
      hfills.read _ hf value (by simp)
    rw [hb] at hread
    refine ⟨optional_parse_eq_some_iff.mp hread, fun value' b' hvalue' => ?_⟩
    have hread' := optional_parse_eq_some_iff.mpr hvalue'
    rw [← String.ofList_toList (s := value')] at hread'
    have hvalue := passes_of_read (Shape.placeless hinner.lawful.placeless) hvalue'
    exact (hfills.replace hlawful hf hread').decodes hlawful
      (forall_passes_middle.mpr ⟨hvalue, (forall_passes_middle.mp hpasses).2⟩)

def sampleSeries : String :=
  "\x7b\"latest_chapter\":\x7b\"id\":3\x7d,\"name\":\"A\",\"is_fav\":true,\"eps\":0\x7d"

theorem wire_records_are_lenient_named :
    ∃ a, MangaRecord.shape.form.parse sampleSeries = .ok a ∧ a.latestChapter = some ⟨some 3, none⟩ ∧
      (∃ members, IsObject members sampleSeries.toList) ∧
        ∀ members, IsObject members sampleSeries.toList →
          Lenient MangaRecord.shape ["name"] ["is_fav"] members a := by
  have hparse : MangaRecord.shape.form.parse sampleSeries =
      .ok { name := "A", isFavourite := true, latestChapter := some ⟨some 3, none⟩ } := by
    decide +kernel
  exact ⟨_, hparse, rfl, wire_records_are_lenient .manga hparse (by decide +kernel)⟩

end MangaReader.Backend
