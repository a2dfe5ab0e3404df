import MangaReader.Feed.PageEvent
import MangaReader.Proofs.Json.Accepted

/-!
# The messages of a page feed by their grammar

A message is a JSON document. The documents of the empty object end the chapter; those of a value
that describes a page are that page; every other text is malformed, and the failure holds the text
as it came. Where the members of an object repeat a name, the last one of the name counts, whatever
the others are.

* `LastOf` : the last member of a name.
* `PageDescriptor.Describes` : the values that describe a page.
* `PageDescriptor.ofValue_eq_ok_iff` : a page is taken from the values that describe it.
* `PageEvent.parse_grammar` : **what a message is, for every text**.
-/

namespace MangaReader.Feed

open Json

/-! ### Members -/

/-- The last member of a name. -/
def LastOf (members : List (String × Value)) (name : String) (v : Value) : Prop :=
  ∃ before after, members = before ++ (name, v) :: after ∧ ∀ m ∈ after, m.1 ≠ name

theorem get?_eq_some_iff {members : List (String × Value)} {name : String} {v : Value} :
    Value.get? members name = some v ↔ LastOf members name v := by
  rw [Value.get?, Option.map_eq_some_iff]
  constructor
  · rintro ⟨⟨key, _⟩, hfind, rfl⟩
    obtain ⟨hname, after, before, hsplit, hafter⟩ := List.find?_eq_some_iff_append.mp hfind
    obtain rfl : key = name := by simpa using hname
    refine ⟨before.reverse, after.reverse, ?_, fun m hm => ?_⟩
    · simpa using congrArg List.reverse hsplit
    · simpa using hafter m (List.mem_reverse.mp hm)
  · rintro ⟨before, after, rfl, hafter⟩
    refine ⟨(name, v), List.find?_eq_some_iff_append.mpr ⟨by simp, after.reverse, before.reverse,
      by simp, fun m hm => ?_⟩, rfl⟩
    simpa using hafter m (List.mem_reverse.mp hm)

theorem asSize_eq_ok_iff {v : Value} {n : Nat} :
    v.asSize = .ok n ↔ v = .number (.integer n) := by
  cases v with
  | number m =>
    cases m with
    | integer k =>
      rw [Value.asSize]
      split
      · simp
        omega
      · simp
        omega
    | float x => simp [Value.asSize, Value.unexpected]
  | _ => simp [Value.asSize, Value.unexpected]

theorem asText_eq_ok_iff {v : Value} {s : String} : v.asText = .ok s ↔ v = .string s := by
  cases v with
  | string text => simp [Value.asText]
  | _ => simp [Value.asText, Value.unexpected]

/-! ### Pages -/

namespace PageDescriptor

/-- The values that describe a page: an object with its members, or an array of them. -/
inductive Describes : Value → PageDescriptor → Prop
  | object {members : List (String × Value)} {p : PageDescriptor}
    (hindex : LastOf members "idx" (.number (.integer p.index)))
    (htotal : LastOf members "total" (.number (.integer p.total)))
    (hpath : LastOf members "pic_path" (.string p.path)) : Describes (.object members) p
  | array (p : PageDescriptor) :
    Describes (.array [.number (.integer p.index), .number (.integer p.total), .string p.path]) p

theorem required_eq_ok_iff {α : Type} {name : String} {given : Option α} {a : α} :
    required name given = .ok a ↔ given = some a := by
  cases given <;> simp [required]

theorem lastOf_of_mapM {α : Type} {members : List (String × Value)} {name : String}
    {as : Value → Except Cause α} {a : α}
    (h : (Value.get? members name).mapM as = .ok (some a)) :
    ∃ v, LastOf members name v ∧ as v = .ok a := by
  cases hget : Value.get? members name with
  | none =>
    rw [hget] at h
    cases h
  | some v =>
    rw [hget] at h
    obtain ⟨_, hv, ⟨⟩⟩ := map_eq_ok h
    exact ⟨v, get?_eq_some_iff.mp hget, hv⟩

theorem mapM_of_lastOf {α : Type} {members : List (String × Value)} {name : String} {v : Value}
    (hlast : LastOf members name v) {as : Value → Except Cause α} {a : α} (h : as v = .ok a) :
    (Value.get? members name).mapM as = .ok (some a) := by
  rw [get?_eq_some_iff.mpr hlast]
  exact map_eq_ok_iff.mpr ⟨a, h, rfl⟩

theorem ofMembers_eq_ok_iff {members : List (String × Value)} {p : PageDescriptor} :
    ofMembers members = .ok p ↔ Describes (.object members) p := by
  constructor
  · intro h
    obtain ⟨index?, hindex, h⟩ := bind_eq_ok_iff.mp h
    obtain ⟨path?, hpath, h⟩ := bind_eq_ok_iff.mp h
    obtain ⟨total?, htotal, h⟩ := bind_eq_ok_iff.mp h
    obtain ⟨index, hthereIndex, h⟩ := bind_eq_ok_iff.mp h
    obtain ⟨total, hthereTotal, h⟩ := bind_eq_ok_iff.mp h
    obtain ⟨path, htherePath, h⟩ := bind_eq_ok_iff.mp h
    obtain rfl := required_eq_ok_iff.mp hthereIndex
    obtain rfl := required_eq_ok_iff.mp hthereTotal
    obtain rfl := required_eq_ok_iff.mp htherePath
    obtain rfl := Except.ok.inj h
    obtain ⟨_, hindex, hsize⟩ := lastOf_of_mapM hindex
    obtain rfl := asSize_eq_ok_iff.mp hsize
    obtain ⟨_, htotal, hsize⟩ := lastOf_of_mapM htotal
    obtain rfl := asSize_eq_ok_iff.mp hsize
    obtain ⟨_, hpath, htext⟩ := lastOf_of_mapM hpath
    obtain rfl := asText_eq_ok_iff.mp htext
    exact .object hindex htotal hpath
  · rintro ⟨hindex, htotal, hpath⟩
    rw [ofMembers, mapM_of_lastOf hindex (asSize_eq_ok_iff.mpr rfl),
      mapM_of_lastOf htotal (asSize_eq_ok_iff.mpr rfl),
      mapM_of_lastOf hpath (asText_eq_ok_iff.mpr rfl)]
    rfl

theorem item_eq_ok_iff {α : Type} {items : List Value} {i : Nat} {as : Value → Except Cause α}
    {a : α} : ofItems.item items i as = .ok a ↔ ∃ v, items[i]? = some v ∧ as v = .ok a := by
  rw [ofItems.item]
  cases items[i]? <;> simp

theorem ofItems_eq_ok_iff {items : List Value} {p : PageDescriptor} :
    ofItems items = .ok p ↔ Describes (.array items) p := by
  constructor
  · intro h
    obtain ⟨index, hindex, h⟩ := bind_eq_ok_iff.mp h
    obtain ⟨total, htotal, h⟩ := bind_eq_ok_iff.mp h
    obtain ⟨path, hpath, h⟩ := bind_eq_ok_iff.mp h
    obtain ⟨v₀, h₀, hsize⟩ := item_eq_ok_iff.mp hindex
    obtain rfl := asSize_eq_ok_iff.mp hsize
    obtain ⟨v₁, h₁, hsize⟩ := item_eq_ok_iff.mp htotal
    obtain rfl := asSize_eq_ok_iff.mp hsize
    obtain ⟨v₂, h₂, htext⟩ := item_eq_ok_iff.mp hpath
    obtain rfl := asText_eq_ok_iff.mp htext
    split at h
    · cases h
    · rename_i hlength
      obtain rfl := Except.ok.inj h
      match items, h₀, h₁, h₂, hlength with
      | [_, _, _], rfl, rfl, rfl, _ => exact .array ⟨index, total, path⟩
      | _ :: _ :: _ :: _ :: _, _, _, _, hlength => simp at hlength
  · rintro (_ | p)
    rfl

theorem ofValue_eq_ok_iff {v : Value} {p : PageDescriptor} :
    ofValue v = .ok p ↔ Describes v p := by
  cases v with
  | object members => exact ofMembers_eq_ok_iff
  | array items => exact ofItems_eq_ok_iff
  | _ => exact ⟨nofun, nofun⟩

end PageDescriptor

/-! ### Messages -/

namespace PageEvent

open PageDescriptor

theorem not_describes_empty (p : PageDescriptor) : ¬ Describes (.object []) p := by
  rintro ⟨⟨before, after, hmembers, -⟩, -⟩
  cases before <;> cases hmembers

theorem ofValue_of_ne {v : Value} (hv : v ≠ .object []) :
    ofValue v = (PageDescriptor.ofValue v).map .page := by
  unfold ofValue
  split
  · exact absurd rfl hv
  · rfl

theorem ofValue_eq_page_iff {v : Value} {p : PageDescriptor} :
    ofValue v = .ok (.page p) ↔ Describes v p := by
  by_cases hv : v = .object []
  · subst hv
    exact ⟨nofun, fun h => absurd h (not_describes_empty p)⟩
  · rw [ofValue_of_ne hv, map_eq_ok_iff]
    constructor
    · rintro ⟨_, h, ⟨⟩⟩
      exact ofValue_eq_ok_iff.mp h
    · exact fun h => ⟨p, ofValue_eq_ok_iff.mpr h, rfl⟩

theorem ofValue_eq_terminal_iff {v : Value} : ofValue v = .ok .terminal ↔ v = .object [] := by
  by_cases hv : v = .object []
  · subst hv
    exact ⟨fun _ => rfl, fun _ => rfl⟩
  · rw [ofValue_of_ne hv, map_eq_ok_iff]
    exact ⟨fun ⟨_, _, h⟩ => (nomatch h), fun h => absurd h hv⟩

theorem parse_eq_ok_iff {data : String} {event : PageEvent} :
    parse data = .ok event ↔ ∃ v, IsDocument data.toList v ∧ ofValue v = .ok event := by
  simp only [← Value.parse_eq_ok_iff]
  rw [parse]
  cases Value.parse data with
  | error e => simp
  | ok v =>
    cases hv : ofValue v with
    | error cause => simp [hv]
    | ok event => simp [hv]

theorem malformed_of_parse {data : String} {f : Backend.Failure} (h : parse data = .error f) :
    ∃ message, f = .malformedEvent message data := by
  rw [parse] at h
  split at h
  · exact ⟨_, (Except.error.inj h).symm⟩
  · split at h
    · exact ⟨_, (Except.error.inj h).symm⟩
    · cases h

/-- **What a message is, for every text.** It ends the chapter if and only if it is a document of
the empty object. It is a page if and only if it is a document of a value that describes the page:
of an object whose last members of the three names are its place, the number of pages and its path,
whatever the other members are, or of an array of the three in that order. Every other text is
malformed, and the failure holds that text. The numbers stand as decimals without sign, point,
exponent or leading zero, and fit 64 bits. -/
theorem parse_grammar (text : String) :
    (parse text = .ok .terminal ↔ IsDocument text.toList (.object [])) ∧
      (∀ p, parse text = .ok (.page p) ↔ ∃ v, IsDocument text.toList v ∧ Describes v p) ∧
      ((∃ message, parse text = .error (.malformedEvent message text)) ↔
        ¬ (IsDocument text.toList (.object []) ∨ ∃ p v, IsDocument text.toList v ∧ Describes v p)) ∧
      ∀ (n : Nat) (literal : List Char), Value.Spells (.number (.integer n)) literal ↔
        n < 2 ^ 64 ∧ literal = Nat.toDigits 10 n := by
  have hterminal : parse text = .ok .terminal ↔ IsDocument text.toList (.object []) := by
    simp [parse_eq_ok_iff, ofValue_eq_terminal_iff]
  have hpage : ∀ p, parse text = .ok (.page p) ↔
      ∃ v, IsDocument text.toList v ∧ Describes v p := by
    simp [parse_eq_ok_iff, ofValue_eq_page_iff]
  refine ⟨hterminal, hpage, ⟨?_, ?_⟩, fun n literal => Value.spells_natural_iff⟩
  · rintro ⟨message, h⟩ (hend | ⟨p, hdescribed⟩)
    · cases h.symm.trans (hterminal.mpr hend)
    · cases h.symm.trans ((hpage p).mpr hdescribed)
  · intro hno
    cases hparse : parse text with
    | error f =>
      obtain ⟨message, rfl⟩ := malformed_of_parse hparse
      exact ⟨message, rfl⟩
    | ok event =>
      cases event with
      | terminal => exact absurd (.inl (hterminal.mp hparse)) hno
      | page p => exact absurd (.inr ⟨p, (hpage p).mp hparse⟩) hno

/-- The last place counts, and neither another member nor the order does. -/
example : parse "\x7b\"total\":3,\"idx\":-1,\"pic_path\":\"a\",\"next\":[],\"idx\":0\x7d" =
    .ok (.page ⟨0, 3, "a"⟩) := by
  decide +kernel

end PageEvent

end MangaReader.Feed
