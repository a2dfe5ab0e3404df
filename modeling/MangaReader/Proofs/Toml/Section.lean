import MangaReader.Proofs.Toml.Document

/-!
# Documents are read as they are written

A document of sections is read line by line: each header enters its table, and each key puts its
value there. What comes of it is known once it is known what that does to the tables.

* `Draft.takeIn` : what a section does to a document under construction.
* `Document.Leads` : lines that lead from a draft to another.
* `Document.leads_written`, `Document.leads_document` : the lines of a section and of a document.
* `Document.parse_document` : the members of a document of sections.
-/

namespace MangaReader.Toml

structure Section.Plain (s : Section) : Prop where
  short : s.path.length < Document.depthLimit
  pairs : ∀ p ∈ s.pairs, p.2.Plain

namespace Draft

def putAll (d : Draft) (pairs : List (String × Value)) : Option Draft :=
  pairs.foldlM (fun d p => d.put [] p.1 p.2) d

def takeIn (d : Draft) (s : Section) : Option Draft :=
  (match s.path with
    | [] => some d
    | first :: names =>
      d.enter ⟨(first :: names).dropLast, (first :: names).getLastD first, false⟩).bind
    (putAll · s.pairs)

end Draft

namespace Document

/-! ## Lines -/

/-- Lines at the start of a text that lead from a draft to another, and leave the rest. -/
def Leads (d : Draft) (text : List Char) (d' : Draft) (rest : List Char) : Prop :=
  ∃ steps, steps + rest.length ≤ text.length ∧
    ∀ fuel, statements (fuel + steps) d text = statements fuel d' rest

theorem Leads.refl (d : Draft) (text : List Char) : Leads d text d text :=
  ⟨0, by omega, fun _ => rfl⟩

theorem Leads.trans {d d' d'' : Draft} {text text' text'' : List Char}
    (h : Leads d text d' text') (h' : Leads d' text' d'' text'') : Leads d text d'' text'' := by
  obtain ⟨steps, hlength, hrun⟩ := h
  obtain ⟨steps', hlength', hrun'⟩ := h'
  refine ⟨steps' + steps, by omega, fun fuel => ?_⟩
  rw [← Nat.add_assoc, hrun, hrun']

theorem Leads.of_statement {d d' : Draft} {c : Char} {text rest : List Char}
    (hblank : isBlank c = false) (hread : statement d (c :: text) = .found d' rest)
    (hlength : rest.length ≤ text.length) : Leads d (c :: text) d' rest := by
  refine ⟨1, ?_, fun fuel => ?_⟩
  · rw [List.length_cons]
    omega
  · have hskip : skipBlank (c :: text) = c :: text := by
      rw [skipBlank, List.dropWhile_cons_of_neg (by simp [hblank])]
    rw [statements, hskip]
    simp only [hread]

theorem Leads.statements_eq {d d' : Draft} {text : List Char} (h : Leads d text d' []) :
    statements (text.length + 1) d text = .ok d' := by
  obtain ⟨steps, hlength, hrun⟩ := h
  obtain ⟨more, hmore⟩ := Nat.exists_eq_add_of_le hlength
  have hfuel : text.length + 1 = more + 1 + steps := by
    rw [hmore, List.length_nil]
    omega
  rw [hfuel, hrun]
  rfl

/-! ## Sections -/

theorem leads_line {d d' : Draft} {p : String × Value} (hp : p.2.Plain)
    (hd : d.put [] p.1 p.2 = some d') (rest : List Char) :
    Leads d (Section.line p ++ rest) d' rest := by
  have hread := statement_line hp hd rest
  obtain ⟨c, more, hshape, hc⟩ := key_head p.1
  have hblank : isBlank c = false := by
    have hspace : c ≠ ' ' := hc.ne rfl (by decide)
    have htab : c ≠ '\t' := hc.ne rfl (by decide)
    simp [isBlank, hspace, htab]
  simp only [Section.line, hshape, List.cons_append] at hread ⊢
  refine Leads.of_statement hblank hread ?_
  simp only [List.length_append]
  omega

theorem leads_lines {d d' : Draft} {pairs : List (String × Value)}
    (hpairs : ∀ p ∈ pairs, p.2.Plain) (hd : d.putAll pairs = some d') (rest : List Char) :
    Leads d (pairs.flatMap Section.line ++ rest) d' rest := by
  induction pairs generalizing d with
  | nil =>
    obtain rfl : d = d' := Option.some.inj hd
    exact .refl d rest
  | cons p pairs ih =>
    obtain ⟨hp, hpairs⟩ := List.forall_mem_cons.mp hpairs
    rw [Draft.putAll, List.foldlM_cons] at hd
    obtain ⟨between, hput, hd⟩ := Option.bind_eq_some_iff.mp hd
    rw [List.flatMap_cons, List.append_assoc]
    exact (leads_line hp hput _).trans (ih hpairs hd)

theorem leads_written {d d' : Draft} {s : Section} (hs : s.Plain) (hd : d.takeIn s = some d')
    (rest : List Char) : Leads d (s.written ++ rest) d' rest := by
  obtain ⟨between, henter, hd⟩ := Option.bind_eq_some_iff.mp hd
  rw [Section.written, List.append_assoc]
  refine Leads.trans ?_ (leads_lines hs.pairs hd rest)
  have hshort := hs.short
  cases hpath : s.path with
  | nil =>
    rw [hpath] at henter
    obtain rfl : d = between := Option.some.inj henter
    exact .refl d _
  | cons first names =>
    rw [hpath] at henter hshort
    have hread := statement_head hshort henter (s.pairs.flatMap Section.line ++ rest)
    have hshape : Section.head (first :: names) =
        '[' :: (['.'].intercalate ((first :: names).map Section.key) ++ [']', '\n']) := rfl
    rw [hshape, List.cons_append] at hread ⊢
    refine Leads.of_statement rfl hread ?_
    simp only [List.length_append]
    omega

theorem leads_document {d d' : Draft} {sections : List Section} (hs : ∀ s ∈ sections, s.Plain)
    (hd : sections.foldlM Draft.takeIn d = some d') :
    Leads d (['\n'].intercalate (sections.map Section.written)) d' [] := by
  induction sections generalizing d with
  | nil =>
    obtain rfl : d = d' := Option.some.inj hd
    exact .refl d []
  | cons s sections ih =>
    obtain ⟨hfirst, hrest⟩ := List.forall_mem_cons.mp hs
    rw [List.foldlM_cons] at hd
    obtain ⟨between, htake, hd⟩ := Option.bind_eq_some_iff.mp hd
    have hlines := ih hrest hd
    cases sections with
    | nil =>
      have h := leads_written hfirst htake []
      rw [List.append_nil] at h
      rw [List.map_singleton, List.intercalate_singleton]
      exact h.trans hlines
    | cons next sections =>
      rw [List.map_cons, List.map_cons, List.intercalate_cons_cons, ← List.map_cons,
        List.append_assoc]
      have hblank : Leads between
          ('\n' :: ['\n'].intercalate ((next :: sections).map Section.written)) between
          (['\n'].intercalate ((next :: sections).map Section.written)) :=
        .of_statement rfl rfl (Nat.le_refl _)
      exact (leads_written hfirst htake _).trans (hblank.trans hlines)

theorem written_head (s : Section) {c : Char} {more : List Char} (h : s.written = c :: more) :
    c = '[' ∨ OpensKey c := by
  rw [Section.written] at h
  cases hpath : s.path with
  | cons first names =>
    rw [hpath] at h
    exact .inl (List.cons.inj h).1.symm
  | nil =>
    rw [hpath, Section.head, if_pos List.isEmpty_nil, List.nil_append] at h
    cases hpairs : s.pairs with
    | nil => rw [hpairs] at h; cases h
    | cons p pairs =>
      obtain ⟨d, more', hshape, hd⟩ := key_head p.1
      rw [hpairs, List.flatMap_cons, Section.line, hshape] at h
      exact .inr ((List.cons.inj h).1 ▸ hd)

theorem document_head (sections : List Section) :
    (['\n'].intercalate (sections.map Section.written)).head? ≠ some '\ufeff' := by
  intro h
  obtain ⟨more, h⟩ := List.head?_eq_some_iff.mp h
  have hkey : ¬ OpensKey '\ufeff' := fun h => h.ne (d := '\ufeff') rfl (by decide) rfl
  cases sections with
  | nil => cases h
  | cons s sections =>
    have hfirst : ∃ rest, ['\n'].intercalate ((s :: sections).map Section.written) =
        s.written ++ rest ∧ ∀ c ∈ rest.head?, c = '\n' := by
      cases sections with
      | nil => exact ⟨[], by simp, by simp⟩
      | cons next sections => exact ⟨_, by
          rw [List.map_cons, List.map_cons, List.intercalate_cons_cons, List.append_assoc], by simp⟩
    obtain ⟨rest, hshape, hrest⟩ := hfirst
    rw [hshape] at h
    cases hwritten : s.written with
    | nil =>
      rw [hwritten, List.nil_append] at h
      exact absurd (hrest '\ufeff' (h ▸ rfl)) (by decide)
    | cons c text =>
      rw [hwritten] at h
      rw [(List.cons.inj h).1] at hwritten
      rcases written_head s hwritten with h | h
      · exact absurd h (by decide)
      · exact hkey h

theorem parse_document {d : Draft} {sections : List Section} {members : Members}
    (hs : ∀ s ∈ sections, s.Plain) (hd : sections.foldlM Draft.takeIn {} = some d)
    (hclose : d.close = some members) :
    parse (Section.document sections) = .ok members.values := by
  have hread := (leads_document hs hd).statements_eq
  rw [parse, Section.document, String.toList_ofList]
  simp only [if_neg (document_head sections), hread, hclose]

end Document

end MangaReader.Toml
