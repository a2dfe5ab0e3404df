import MangaReader.Proofs.Chapter.Index
import MangaReader.Proofs.Viewer.Tickets

/-!
# Where a viewer stands

The place of a viewer belongs to its index. An index can be replaced while a chapter streams: the
place follows the chapter to where it stands now, or is lost with it, and the session keeps the
chapter as it was opened. So place and session have the id of the chapter in common, and not its
group and position (`Viewer.Located`). The surface shows the titles of the index from the first
operation on that lists them (`Viewer.Listed`).

* `Viewer.Located`, `Viewer.Listed` : what a viewer's place and its list of chapters are.
* `Viewer.Located.effect`, `Viewer.Listed.effect` : every operation keeps them.
* `Viewer.located_and_listed` : both in all runs of a new viewer, with the session opened last.
-/

namespace MangaReader

namespace Viewer

/-- Whether the index that an operation brings, if it brings one, is built of groups. -/
def Op.Built : Op → Prop
  | .replaceIndex index => ∃ groups, index = .ofGroups groups
  | _ => True

def Op.lists : Op → Bool
  | .replaceIndex _ | .setTab _ => true
  | _ => false

def Op.asks : Op → Bool
  | .select _ | .navigate _ => true
  | _ => false

/-- The place of a viewer is that of a chapter of its index, which has the id of the session's
chapter if there is a session. -/
structure Located (v : Viewer) : Prop where
  index : v.index.Numbered
  place : ∀ place, v.cursor = some place → ∃ c, v.index.resolve place = some c ∧
    c.cursor = place ∧ ∀ s, v.session = some s → c.id = s.chapter.id

/-- The surface shows the titles of the index, group by group, and the tab of the viewer. -/
structure Listed (v : Viewer) : Prop where
  tabs : v.surface.tabs =
    [(.chapter, (v.index.group .chapter).map (·.title)),
      (.volume, (v.index.group .volume).map (·.title)),
      (.misc, (v.index.group .misc).map (·.title))]
  activeTab : v.surface.activeTab = some v.activeTab

variable {v v' : Viewer} {op : Op} {a : Answer}

/-! ### The place -/

theorem located_new (assets : AssetPaths) : Located { assets } where
  index := ChapterIndex.numbered_empty
  place _ h := by cases h

theorem Located.start (hv : Located v) {place : Cursor} {c : Chapter}
    (hplace : v.index.resolve place = some c) : Located (v.start c).1 where
  index := hv.index
  place other hother := by
    have hcursor : c.cursor = other := Option.some.inj hother
    have hat : c.cursor = place := hv.index place c hplace
    refine ⟨c, ?_, hcursor, fun s hs => ?_⟩
    · rw [← hcursor, hat]
      exact hplace
    · cases hs
      rfl

theorem Located.replaceIndex (hv : Located v) {index : ChapterIndex} (hindex : index.Numbered) :
    Located (v.replaceIndex index) where
  index := hindex
  place place hplace := by
    obtain ⟨c, hc, hcursor⟩ := Option.map_eq_some_iff.mp hplace
    obtain ⟨old, hold, hfind⟩ := Option.bind_eq_some_iff.mp hc
    obtain ⟨before, hbefore, hresolve⟩ := Option.bind_eq_some_iff.mp hold
    obtain ⟨hat, hid⟩ := hindex.resolve_of_find hfind
    rw [hcursor] at hat
    refine ⟨c, hat, hcursor, fun s hs => ?_⟩
    obtain ⟨same, hsame, -, hsession⟩ := hv.place before hbefore
    rw [hresolve, Option.some.injEq] at hsame
    rw [hid, hsame]
    exact hsession s hs

theorem Located.of_same (hv : Located v) (hindex : v'.index = v.index)
    (hcursor : v'.cursor = v.cursor)
    (hsession : ∀ s, v'.session = some s →
      ∃ before, v.session = some before ∧ before.ticket = s.ticket) : Located v' where
  index := hindex ▸ hv.index
  place place hplace := by
    rw [hcursor] at hplace
    obtain ⟨c, hc, hat, hid⟩ := hv.place place hplace
    refine ⟨c, hindex ▸ hc, hat, fun s hs => ?_⟩
    obtain ⟨before, hbefore, hsame⟩ := hsession s hs
    rw [hid before hbefore]
    exact congrArg (fun t : Ticket => t.chapter.id) hsame

theorem Located.effect (hv : Located v) (h : Effect v op v' a) (hop : op.Built) : Located v' := by
  have hold : a.ticket? = none → ∀ s, v'.session = some s →
      ∃ before, v.session = some before ∧ before.ticket = s.ticket := by
    intro ha s hs
    rcases h.ticket_of_session hs with hnew | ⟨-, hbefore⟩
    · rw [ha] at hnew
      cases hnew
    · exact hbefore
  cases h with
  | indexReplaced index =>
    obtain ⟨groups, rfl⟩ := hop
    exact hv.replaceIndex (ChapterIndex.numbered_ofGroups groups)
  | selected hplace => exact hv.start hplace
  | navigated _ _ hplace =>
    obtain ⟨_, hother⟩ := ChapterIndex.exists_resolve_of_adjacent hplace
    exact hv.start hother
  | _ => exact hv.of_same rfl rfl (hold rfl)

/-! ### The list of chapters -/

theorem listed_replaceIndex (v : Viewer) (index : ChapterIndex) : Listed (v.replaceIndex index) :=
  ⟨rfl, rfl⟩

theorem listed_setTab (v : Viewer) (tab : ChapterKind) : Listed (v.setTab tab) := ⟨rfl, rfl⟩

theorem tabs_readyFor_place (surface : Surface) (s : Session) (page : Feed.PageDescriptor)
    (i : Nat) (url : String) :
    ((surface.readyFor s page).place i url).tabs = surface.tabs ∧
      ((surface.readyFor s page).place i url).activeTab = surface.activeTab := by
  unfold Surface.readyFor Surface.place
  split <;> split <;> exact ⟨rfl, rfl⟩

theorem Listed.effect (hv : Listed v) (h : Effect v op v' a) : Listed v' := by
  cases h with
  | indexReplaced index => exact listed_replaceIndex v index
  | tabSet tab => exact listed_setTab v tab
  | placed =>
    obtain ⟨htabs, htab⟩ := tabs_readyFor_place v.surface _ _ _ _
    exact ⟨htabs.trans hv.tabs, htab.trans hv.activeTab⟩
  | rejected _ _ _ hsurface =>
    rcases hsurface with rfl | ⟨-, -, -, rfl⟩ <;> exact ⟨hv.tabs, hv.activeTab⟩
  | _ => exact ⟨hv.tabs, hv.activeTab⟩

theorem Effect.listed_of_lists (h : Effect v op v' a) (hop : op.lists) : Listed v' := by
  cases h with
  | indexReplaced index => exact listed_replaceIndex v index
  | tabSet tab => exact listed_setTab v tab
  | _ => cases hop

/-! ### Whole runs -/

theorem located_run (hv : Located v) {ops : List Op} (hops : ∀ op ∈ ops, op.Built) :
    Located (v.run ops).1 :=
  run_keeps_of (fun w op hop hw => hw.effect (step_effect w op) hop) hv ops hops

theorem listed_run {ops : List Op} (hops : ∃ op ∈ ops, op.lists) : Listed (v.run ops).1 := by
  obtain ⟨op, hop, hlists⟩ := hops
  obtain ⟨before, after, rfl⟩ := List.append_of_mem hop
  rw [run_append, run_cons_fst]
  exact run_keeps (fun w op hw => hw.effect (step_effect w op))
    ((step_effect _ op).listed_of_lists hlists) after

/-- **A viewer stands in its index.** Whatever a new viewer is asked, in any order, with indices
that are built of groups: its place is that of a chapter of the index, and if there is a session,
the chapter has the id of the session's; the session is the one whose ticket was given out last; and
as soon as a list of chapters was asked for, the surface shows the titles of the index in all three
groups, with the tab of the viewer. -/
theorem located_and_listed (assets : AssetPaths) (ops : List Op) (hops : ∀ op ∈ ops, op.Built) :
    let reached := ({ assets } : Viewer).run ops
    (∀ place, reached.1.cursor = some place → ∃ c, reached.1.index.resolve place = some c ∧
      c.cursor = place ∧ ∀ s, reached.1.session = some s → c.id = s.chapter.id) ∧
    (∀ s, reached.1.session = some s →
      (tickets reached.2).getLast? = some ⟨s.id, s.chapter⟩) ∧
    ((∃ op ∈ ops, op.lists) → reached.1.Listed) :=
  ⟨(located_run (located_new assets) hops).place,
    fun _ hs => getLast?_tickets_run rfl ops hs, listed_run⟩

/-- A chapter that is moved to another group while it is open; two chapters have its id. -/
theorem located_and_listed_moved :
    let ops : List Op :=
      [.replaceIndex (.ofGroups [(.chapter, [(1, "a"), (2, "b"), (2, "c")])]),
        .select ⟨.chapter, 2⟩,
        .replaceIndex
          (.ofGroups [(.chapter, [(1, "a")]), (.volume, [(5, "x"), (2, "c"), (2, "d")])])]
    let reached := ({} : Viewer).run ops
    (∀ op ∈ ops, op.Built) ∧ (∃ op ∈ ops, op.lists) ∧
      reached.1.cursor = some ⟨.volume, 1⟩ ∧
      reached.1.session = some { id := 1, chapter := ⟨2, "c", .chapter, 2⟩ } ∧
      (∃ c, reached.1.index.resolve ⟨.volume, 1⟩ = some c ∧ c.cursor = ⟨.volume, 1⟩ ∧ c.id = 2) ∧
      (tickets reached.2).getLast? = some ⟨1, ⟨2, "c", .chapter, 2⟩⟩ ∧ reached.1.Listed := by
  intro ops reached
  have hbuilt : ∀ op ∈ ops, op.Built := by
    intro op hop
    simp only [ops, List.mem_cons, List.not_mem_nil, or_false] at hop
    rcases hop with rfl | rfl | rfl
    · exact ⟨_, rfl⟩
    · trivial
    · exact ⟨_, rfl⟩
  have hlists : ∃ op ∈ ops, op.lists := ⟨_, List.mem_cons_self, rfl⟩
  obtain ⟨hplace, hlast, hlisted⟩ := located_and_listed {} ops hbuilt
  have hcursor : reached.1.cursor = some ⟨.volume, 1⟩ := by decide
  have hsession : reached.1.session = some { id := 1, chapter := ⟨2, "c", .chapter, 2⟩ } := by
    decide
  obtain ⟨c, hc, hat, hid⟩ := hplace _ hcursor
  exact ⟨hbuilt, hlists, hcursor, hsession, ⟨c, hc, hat, hid _ hsession⟩, hlast _ hsession,
    hlisted hlists⟩

end Viewer

end MangaReader
