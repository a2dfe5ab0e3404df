import MangaReader.Library.Resume
import Mathlib.Data.List.Induction
import Mathlib.Data.List.Nodup

/-!
# Going through a show

A show is gone on with again and again, and every episode that is played becomes the one watched
last. The next one is looked for behind the first episode of that id. So if all ids differ, the
episodes are played in order, and then the show is over. But where an id is met for the second time
the run goes back behind its first place, and goes round from there for ever.

* `EpisodeList.watched`, `EpisodeList.answer` : the run.
* `EpisodeList.resume_of_first`, `EpisodeList.resume_anew` : how a show goes on after one episode.
* `EpisodeList.answer_in_order` : the run plays in order up to the first repetition.
* `EpisodeList.lap`, `EpisodeList.answer_lap` : the run after a repetition.
* `EpisodeList.resuming_plays_through` : **which runs come to an end**.
-/

namespace MangaReader.EpisodeList

open Time

variable {x : EpisodeList} {e f g : Episode} {p i j k : Nat} {shown : Episode → Option String}

/-! ### The run -/

/-- The episode watched last after some answers, if every episode is played and recorded. Under
which title the record names it, if under any, is left open. -/
def watched (x : EpisodeList) (shown : Episode → Option String) : Nat → Option Reference
  | 0 => none
  | k + 1 =>
    match x.resume (x.watched shown k) with
    | .play (some e) => some ⟨some e.id, shown e⟩
    | _ => x.watched shown k

def answer (x : EpisodeList) (shown : Episode → Option String) (k : Nat) : Resume :=
  x.resume (x.watched shown k)

theorem answer_succ_of_play (h : x.answer shown k = .play (some e)) :
    x.answer shown (k + 1) = x.resume (some ⟨some e.id, shown e⟩) := by
  rw [answer] at h
  rw [answer, watched, h]

theorem answer_succ_of_finished {title : String} (h : x.answer shown k = .finished title) :
    x.answer shown (k + 1) = .finished title := by
  rw [answer] at h
  rw [answer, watched, h]
  exact h

/-! ### One step -/

/-- An episode that no earlier one has the id of. -/
def FirstAt (x : EpisodeList) (p : Nat) (e : Episode) : Prop :=
  x.get? p = some e ∧ ∀ q < p, ∀ d, x.get? q = some d → d.id ≠ e.id

theorem FirstAt.find_eq (h : x.FirstAt p e) : x.find e.id = some e := by
  obtain ⟨hp, he⟩ := List.getElem?_eq_some_iff.mp h.1
  rw [find, List.find?_eq_some_iff_getElem]
  refine ⟨by simp, p, hp, he, fun q hq => ?_⟩
  have hqp : q < x.episodes.length := by omega
  simpa using h.2 q hq _ (List.getElem?_eq_getElem hqp)

/-- Every episode knows its position. -/
def Positioned (x : EpisodeList) : Prop := ∀ p e, x.get? p = some e → e.position = p

theorem resume_of_first (hx : x.Positioned) (h : x.FirstAt p e) {last : Reference}
    (hlast : last.id = some e.id) :
    x.resume (some last) =
      match x.get? (p + 1) with
      | some next => .play (some next)
      | none => .finished e.title := by
  have hafter : x.after e.id = x.get? (p + 1) := by
    rw [after, h.find_eq, Option.bind_some, hx p e h.1]
  rw [resume, Option.bind_some, hlast, Option.bind_some, h.find_eq]
  cases hnext : x.get? (p + 1) with
  | none => simp only [hafter, hnext]
  | some next => simp only [hafter, hnext]

theorem resume_anew {last : Option Reference}
    (h : ∀ id, last.bind (·.id) = some id → ∀ e ∈ x.episodes, e.id ≠ id) :
    x.resume last = .play (x.get? 0) := by
  have hnone : (last.bind (·.id)).bind x.find = none := by
    rw [Option.bind_eq_none_iff]
    intro id hid
    rw [find, List.find?_eq_none]
    intro e he
    simpa using h id hid e he
  rw [resume, hnone]

theorem answer_zero (x : EpisodeList) (shown : Episode → Option String) :
    x.answer shown 0 = .play (x.get? 0) :=
  resume_anew nofun

theorem answer_succ (hx : x.Positioned) (h : x.answer shown k = .play (some f))
    (hfirst : x.FirstAt p e) (hid : f.id = e.id) (hnext : x.get? (p + 1) = some g) :
    x.answer shown (k + 1) = .play (some g) := by
  rw [answer_succ_of_play h, resume_of_first hx hfirst (congrArg some hid), hnext]

/-! ### Episodes of different ids -/

def ids (x : EpisodeList) : List Int := x.episodes.map (·.id)

theorem getElem?_ids (x : EpisodeList) (p : Nat) : x.ids[p]? = (x.get? p).map (·.id) := by
  rw [ids, List.getElem?_map, get?]

theorem exists_get? (hp : p < x.size) : ∃ e, x.get? p = some e :=
  ⟨_, List.getElem?_eq_getElem hp⟩

theorem nodup_take_ids (h : x.ids.Nodup) (j : Nat) : (x.ids.take j).Nodup :=
  h.sublist (List.take_sublist _ _)

theorem firstAt_of_nodup (h : (x.ids.take j).Nodup) (hp : p < j) (he : x.get? p = some e) :
    x.FirstAt p e := by
  refine ⟨he, fun q hq d hd hsame => ?_⟩
  have hat : ∀ {r : Nat} {c : Episode}, r < j → x.get? r = some c →
      (x.ids.take j)[r]? = some c.id := by
    intro r c hr hc
    rw [List.getElem?_take_of_lt hr, getElem?_ids, hc, Option.map_some]
  have hsame : (x.ids.take j)[q]? = (x.ids.take j)[p]? := by
    rw [hat (by omega) hd, hat hp he, hsame]
  have hlength : q < (x.ids.take j).length := (List.getElem?_eq_some_iff.mp (hat (by omega) hd)).1
  have hqp : q = p := (List.getElem?_inj hlength h).mp hsame
  omega

theorem answer_in_order (hx : x.Positioned) (h : (x.ids.take j).Nodup) (hk : k ≤ j)
    (he : x.get? k = some e) : x.answer shown k = .play (some e) := by
  induction k generalizing e with
  | zero => rw [answer_zero, he]
  | succ k ih =>
    have hsize : k + 1 < x.size := (List.getElem?_eq_some_iff.mp he).1
    obtain ⟨f, hf⟩ := exists_get? (show k < x.size by omega)
    exact answer_succ hx (ih (by omega) hf) (firstAt_of_nodup h (by omega) hf) rfl he

/-! ### Repeated ids -/

theorem exists_first_repetition {α : Type} {l : List α} (h : ¬ l.Nodup) :
    ∃ i j, i < j ∧ j < l.length ∧ l[i]? = l[j]? ∧ (l.take j).Nodup := by
  induction l using List.reverseRecOn with
  | nil => exact absurd List.nodup_nil h
  | append_singleton l a ih =>
    by_cases hl : l.Nodup
    · have ha : a ∈ l := by
        rw [List.nodup_append] at h
        by_contra hnew
        exact h ⟨hl, List.nodup_singleton a, fun b hb c hc hbc =>
          hnew (List.mem_singleton.mp hc ▸ hbc ▸ hb)⟩
      obtain ⟨i, hi, hia⟩ := List.mem_iff_getElem.mp ha
      refine ⟨i, l.length, hi, by simp, ?_, by simpa using hl⟩
      rw [List.getElem?_append_left hi, List.getElem?_eq_getElem hi, hia,
        List.getElem?_concat_length]
    · obtain ⟨i, j, hij, hj, hsame, htake⟩ := ih hl
      refine ⟨i, j, hij, by simp; omega, ?_, ?_⟩
      · rw [List.getElem?_append_left (by omega), List.getElem?_append_left hj, hsame]
      · rwa [List.take_append_of_le_length (Nat.le_of_lt hj)]

/-- The position of the `k`-th play if the id at `i` is met again at `j`: up to there the positions
in order, and from there round from behind `i` to `j`. -/
def lap (i j k : Nat) : Nat := if k ≤ j then k else i + 1 + (k - (j + 1)) % (j - i)

theorem lap_of_le (hk : k ≤ j) : lap i j k = k := if_pos hk

theorem lap_of_lt (hk : j < k) : lap i j k = i + 1 + (k - (j + 1)) % (j - i) :=
  if_neg (Nat.not_le_of_lt hk)

theorem lap_le (hij : i < j) (k : Nat) : lap i j k ≤ j := by
  rcases Nat.lt_or_ge j k with hk | hk
  · have hmod := Nat.mod_lt (k - (j + 1)) (show 0 < j - i by omega)
    rw [lap_of_lt hk]
    omega
  · rwa [lap_of_le hk]

theorem succ_mod {d : Nat} (hd : 0 < d) (m : Nat) :
    (m + 1) % d = if m % d + 1 = d then 0 else m % d + 1 := by
  rw [← Nat.mod_add_mod]
  split
  · rename_i hlast
    rw [hlast, Nat.mod_self]
  · rename_i hmore
    have hmod := Nat.mod_lt m hd
    exact Nat.mod_eq_of_lt (by omega)

theorem lap_succ (hij : i < j) (k : Nat) :
    lap i j (k + 1) = if lap i j k = j then i + 1 else lap i j k + 1 := by
  rcases Nat.lt_trichotomy k j with hk | rfl | hk
  · rw [lap_of_le (by omega), lap_of_le (by omega), if_neg (by omega)]
  · rw [lap_of_le (Nat.le_refl k), if_pos rfl, lap_of_lt (Nat.lt_succ_self k), Nat.sub_self,
      Nat.zero_mod, Nat.add_zero]
  · have hsub : k + 1 - (j + 1) = k - (j + 1) + 1 := by omega
    rw [lap_of_lt hk, lap_of_lt (by omega), hsub, succ_mod (by omega)]
    split <;> split <;> omega

/-- The id at 1 is met again at 4. -/
example : (List.range 9).map (lap 1 4) = [0, 1, 2, 3, 4, 2, 3, 4, 2] := by decide

theorem answer_lap (hx : x.Positioned) (hij : i < j) (hj : j < x.size)
    (hsame : x.ids[i]? = x.ids[j]?) (h : (x.ids.take j).Nodup) (k : Nat) :
    ∃ e, x.get? (lap i j k) = some e ∧ x.answer shown k = .play (some e) := by
  induction k with
  | zero =>
    obtain ⟨e, he⟩ := exists_get? (show 0 < x.size by omega)
    exact ⟨e, by simpa [lap] using he, by rw [answer_zero, he]⟩
  | succ k ih =>
    obtain ⟨f, hf, hplay⟩ := ih
    have hle := lap_le hij k
    rw [lap_succ hij]
    split
    · rename_i hlap
      obtain ⟨e, he⟩ := exists_get? (show i < x.size by omega)
      obtain ⟨g, hg⟩ := exists_get? (show i + 1 < x.size by omega)
      have hid : f.id = e.id := by
        rw [getElem?_ids, getElem?_ids, he, ← hlap, hf] at hsame
        exact (Option.some.inj hsame).symm
      exact ⟨g, hg, answer_succ hx hplay (firstAt_of_nodup h hij he) hid hg⟩
    · obtain ⟨g, hg⟩ := exists_get? (show lap i j k + 1 < x.size by omega)
      exact ⟨g, hg, answer_succ hx hplay (firstAt_of_nodup h (by omega) hf) rfl hg⟩

/-! ### Whole lists -/

variable {entries : List (Int × String × Option Instant)}

theorem get?_ofEntries (entries : List (Int × String × Option Instant)) (p : Nat) :
    (ofEntries entries).get? p =
      entries[p]?.map fun (id, title, lastUpdate) => ⟨id, title, p, lastUpdate⟩ := by
  rw [get?, ofEntries, List.getElem?_mapIdx]

theorem positioned_ofEntries (entries : List (Int × String × Option Instant)) :
    (ofEntries entries).Positioned := by
  intro p e he
  rw [get?_ofEntries] at he
  obtain ⟨entry, -, rfl⟩ := Option.map_eq_some_iff.mp he
  rfl

theorem size_ofEntries (entries : List (Int × String × Option Instant)) :
    (ofEntries entries).size = entries.length := List.length_mapIdx

theorem ids_ofEntries (entries : List (Int × String × Option Instant)) :
    (ofEntries entries).ids = entries.map (·.1) := by
  apply List.ext_getElem?
  intro p
  rw [getElem?_ids, get?_ofEntries, List.getElem?_map]
  cases entries[p]? <;> rfl

theorem answer_finished (hne : entries ≠ []) (h : (entries.map (·.1)).Nodup)
    (hk : entries.length ≤ k) :
    (ofEntries entries).answer shown k = .finished (entries.getLast hne).2.1 := by
  have hx := positioned_ofEntries entries
  have hnodup : ((ofEntries entries).ids.take entries.length).Nodup :=
    nodup_take_ids (ids_ofEntries entries ▸ h) _
  have hpos := List.length_pos_iff.mpr hne
  induction hk with
  | refl =>
    obtain ⟨last, hlast⟩ : ∃ last, entries.length = last + 1 := ⟨entries.length - 1, by omega⟩
    have hentry : entries[last]? = some (entries.getLast hne) := by
      rw [List.getLast_eq_getElem, List.getElem?_eq_getElem (by omega)]
      simp only [hlast, Nat.add_sub_cancel]
    have he := get?_ofEntries entries last
    rw [hentry, Option.map_some] at he
    have hend : (ofEntries entries).get? (last + 1) = none := by
      rw [get?_ofEntries, List.getElem?_eq_none (by omega), Option.map_none]
    have hplay : (ofEntries entries).answer shown last = .play (some _) :=
      answer_in_order hx hnodup (by omega) he
    rw [hlast, answer_succ_of_play hplay,
      resume_of_first hx (firstAt_of_nodup hnodup (by omega) he) rfl, hend]
  | step _ ih => exact answer_succ_of_finished ih

/-- **Going on with a show plays it through, unless an id is repeated.** If all ids differ, the
episodes are played in the order of their positions, and behind the last one the show is over, by
the title of that one. If an id is met again, the run goes round for ever from behind its first
place, and so never comes to an end. After an episode without id, or with one that is not listed,
the show starts anew. -/
theorem resuming_plays_through (entries : List (Int × String × Option Instant))
    (hne : entries ≠ []) (shown : Episode → Option String) :
    let x := ofEntries entries
    let ids := entries.map (·.1)
    (ids.Nodup →
        (∀ k < entries.length, ∃ e, x.get? k = some e ∧ e.position = k ∧
          x.answer shown k = .play (some e)) ∧
        ∀ k, entries.length ≤ k → x.answer shown k = .finished (entries.getLast hne).2.1) ∧
      (¬ ids.Nodup →
        ∃ i j, i < j ∧ j < entries.length ∧ ids[i]? = ids[j]? ∧ (ids.take j).Nodup ∧
          ∀ k, ∃ e, x.get? (lap i j k) = some e ∧ e.position = lap i j k ∧
            x.answer shown k = .play (some e)) ∧
      ∀ last : Reference, (∀ id, last.id = some id → id ∉ ids) →
        ∃ e, x.get? 0 = some e ∧ e.position = 0 ∧ x.resume (some last) = .play (some e) := by
  intro x ids
  have hx : x.Positioned := positioned_ofEntries entries
  have hids : x.ids = ids := ids_ofEntries entries
  have hsize : x.size = entries.length := size_ofEntries entries
  have hpos := List.length_pos_iff.mpr hne
  refine ⟨fun hnodup => ⟨fun k hk => ?_, fun k hk => answer_finished hne hnodup hk⟩,
    fun hrepeated => ?_, fun last hlast => ?_⟩
  · obtain ⟨e, he⟩ := exists_get? (hsize ▸ hk)
    have htake : (x.ids.take entries.length).Nodup := nodup_take_ids (hids ▸ hnodup) _
    exact ⟨e, he, hx k e he, answer_in_order hx htake (Nat.le_of_lt hk) he⟩
  · obtain ⟨i, j, hij, hj, hsame, htake⟩ := exists_first_repetition hrepeated
    rw [List.length_map] at hj
    refine ⟨i, j, hij, hj, hsame, htake, fun k => ?_⟩
    obtain ⟨e, he, hplay⟩ : ∃ e, x.get? (lap i j k) = some e ∧ x.answer shown k = .play (some e) :=
      answer_lap hx hij (hsize ▸ hj) (hids ▸ hsame) (hids ▸ htake) k
    exact ⟨e, he, hx _ e he, hplay⟩
  · obtain ⟨e, he⟩ := exists_get? (hsize ▸ hpos)
    refine ⟨e, he, hx 0 e he, ?_⟩
    rw [← he]
    refine resume_anew fun id hid d hd hsame => hlast id hid ?_
    rw [← hids, ← hsame]
    exact List.mem_map_of_mem hd

/-- A list with one id twice is never played to its end. -/
theorem resuming_plays_through_again :
    let entries : List (Int × String × Option Instant) :=
      [(1, "a", none), (2, "b", none), (1, "c", none), (3, "d", none)]
    entries ≠ [] ∧
      ∀ shown k title, (ofEntries entries).answer shown k ≠ .finished title := by
  intro entries
  have hne : entries ≠ [] := List.cons_ne_nil _ _
  refine ⟨hne, fun shown k title hover => ?_⟩
  obtain ⟨-, hrepeated, -⟩ := resuming_plays_through entries hne shown
  obtain ⟨i, j, -, -, -, -, hlap⟩ := hrepeated (by decide)
  obtain ⟨e, -, -, hplay⟩ := hlap k
  rw [hplay] at hover
  cases hover

end MangaReader.EpisodeList
