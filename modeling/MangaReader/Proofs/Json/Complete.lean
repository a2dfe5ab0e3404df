import MangaReader.Proofs.Json.Layout

/-!
# What stands in a text is read

A reader that comes to the text of a tree reads all of it, to a tree that is alike, whatever follows
that does not go on with a number. The fuel of a reader is no limit: the length of the text is
enough of it.

* `Tree.ReadsAs` : a text that a reader reads as a tree.
* `Tree.items_readsAs`, `Tree.members_readsAs` : what stands between brackets.
* `Tree.read_stands` : **what stands in a text is read** there.
-/

namespace MangaReader.Json

/-- A text that goes on with no number and does not start with a blank, such as what follows the
blanks behind a value. -/
structure Closes (rest : List Char) : Prop where
  noBlank : NoBlank rest
  ends : Number.Ends rest

theorem closes_nil : Closes [] := ⟨nofun, nofun⟩

theorem closes_cons {c : Char} (hc : c = ',' ∨ c = ']' ∨ c = '\x7d') (rest : List Char) :
    Closes (c :: rest) := by
  constructor
  · rintro _ ⟨⟩
    rcases hc with rfl | rfl | rfl <;> rfl
  · rintro _ ⟨⟩
    rcases hc with rfl | rfl | rfl <;> decide

theorem Blank.ends {blank rest : List Char} (hblank : Blank blank) (hrest : Number.Ends rest) :
    Number.Ends (blank ++ rest) := by
  cases blank with
  | nil => exact hrest
  | cons c blank =>
    rintro _ ⟨⟩
    have hc : Cursor.isBlank c := hblank c List.mem_cons_self
    simp only [Cursor.isBlank, Bool.or_eq_true, beq_iff_eq] at hc
    rcases hc with ((rfl | rfl) | rfl) | rfl <;> decide

namespace Tree

/-- The text of a tree is read as one that is alike, whatever follows it that is no part of a
number. -/
def ReadsAs (read : Cursor → Tree × Option Cursor) (t : Tree) (core : List Char) : Prop :=
  ∀ (offset : Nat) {rest : List Char}, Number.Ends rest →
    ∃ t' stop, read ⟨core ++ rest, offset⟩ = (t', some ⟨rest, stop⟩) ∧ t.Alike t'

variable {read : Cursor → Tree × Option Cursor}

theorem item_readsAs {t : Tree} {core text : List Char} (ht : ReadsAs read t core)
    (hstarts : Starts core) (hframe : Framed core text) (start next : Nat) :
    ∃ before body, text = before ++ body ∧ Blank before ∧ Starts body ∧
      ∀ {items : List (Nat × Tree × Nat)} {tail rest : List Char} {fuel : Nat}, Closes tail →
        (∀ offset, ∃ items' stop,
          readItems read fuel false ⟨tail, offset⟩ = (items', .closed stop, some ⟨rest, stop⟩) ∧
            AlikeItems items items') →
        ∀ offset, ∃ items' stop,
          readItems.item read fuel ⟨body ++ tail, offset⟩ =
            (items', .closed stop, some ⟨rest, stop⟩) ∧
            AlikeItems ((start, t, next) :: items) items' := by
  obtain @⟨before, after, hbefore, hafter⟩ := hframe
  refine ⟨before, core ++ after, rfl, hbefore, hstarts.append after, ?_⟩
  intro items tail rest fuel htail hitems offset
  obtain ⟨t', behind, hread, halike⟩ := ht offset (hafter.ends htail.ends)
  obtain ⟨next', hnext⟩ := Cursor.skipBlank_append hafter htail.noBlank behind
  obtain ⟨items', stop, hreads, hitems⟩ := hitems next'
  refine ⟨(offset, t', next') :: items', stop, ?_, .cons halike hitems start next offset next'⟩
  simp [readItems.item, hread, hnext, hreads]

theorem readItems_close (rest : List Char) (fuel offset : Nat) (first : Bool) :
    readItems read (fuel + 1) first ⟨']' :: rest, offset⟩ =
      ([], .closed (offset + 1), some ⟨rest, offset + 1⟩) := by
  simp [readItems, Cursor.next]
  rfl

theorem readItems_first {text : List Char} (h : Starts text) (fuel offset : Nat) :
    readItems read (fuel + 1) true ⟨text, offset⟩ = readItems.item read fuel ⟨text, offset⟩ := by
  obtain ⟨c, rest, rfl, -, hbracket⟩ := h
  simp [readItems]

theorem readItems_comma {before text : List Char} (hbefore : Blank before) (h : Starts text)
    (fuel offset : Nat) :
    ∃ start, readItems read (fuel + 1) false ⟨',' :: (before ++ text), offset⟩ =
      readItems.item read fuel ⟨text, start⟩ := by
  obtain ⟨start, hstart⟩ := Cursor.skipBlank_append hbefore h.noBlank (offset + 1)
  have hnext : (Cursor.mk (',' :: (before ++ text)) offset).next.skipBlank = ⟨text, start⟩ := hstart
  obtain ⟨c, rest, rfl, -, hbracket⟩ := h
  exact ⟨start, by simp [readItems, hnext, hbracket]⟩

theorem items_readsAs {limit : Nat}
    (hread : ∀ {t core}, Stands t core → core.length ≤ limit → ReadsAs read t core)
    {items : List (Nat × Tree × Nat)} {text : List Char} (h : StandItems items text)
    (hlimit : text.length ≤ limit) {fuel : Nat} (hfuel : text.length ≤ fuel) (rest : List Char) :
    ∃ before body, text = before ++ body ∧ Blank before ∧ Starts body ∧
      ∀ offset, ∃ items' stop,
        readItems.item read fuel ⟨body ++ ']' :: rest, offset⟩ =
          (items', .closed stop, some ⟨rest, stop⟩) ∧ AlikeItems items items' := by
  induction items generalizing text fuel with
  | nil => cases h
  | cons item items ih =>
    cases h with
    | @last _ core _ head hframe start next =>
      have hlength := hframe.length_le
      have hstarts := head.starts
      have hpos := hstarts.length_pos
      obtain ⟨fuel, rfl⟩ := Nat.exists_eq_add_of_le' (by omega : 1 ≤ fuel)
      obtain ⟨before, body, rfl, hbefore, hbody, hitem⟩ :=
        item_readsAs (hread head (by omega)) hstarts hframe start next
      refine ⟨before, body, rfl, hbefore, hbody, hitem (closes_cons (.inr (.inl rfl)) rest) ?_⟩
      exact fun offset => ⟨[], offset + 1, readItems_close rest fuel offset false, .nil⟩
    | @cons _ _ core left more head hframe tail start next =>
      have hlength := hframe.length_le
      simp only [List.length_append, List.length_cons] at hlimit hfuel
      obtain ⟨fuel, rfl⟩ := Nat.exists_eq_add_of_le' (by omega : 1 ≤ fuel)
      obtain ⟨before, body, rfl, hbefore, hbody, hitem⟩ :=
        item_readsAs (hread head (by omega)) head.starts hframe start next
      obtain ⟨before', body', rfl, hbefore', hbody', hitems⟩ :=
        @ih more tail (by omega) fuel (by omega)
      refine ⟨before, body ++ ',' :: (before' ++ body'), by simp, hbefore, hbody.append _, ?_⟩
      intro offset
      have htext : body ++ ',' :: (before' ++ body') ++ ']' :: rest =
          body ++ ',' :: (before' ++ (body' ++ ']' :: rest)) := by simp
      rw [htext]
      refine hitem (closes_cons (.inl rfl) _) (fun offset => ?_) offset
      obtain ⟨start, hcomma⟩ := readItems_comma hbefore' (hbody'.append (']' :: rest)) fuel offset
      rw [hcomma]
      exact hitems start

theorem member_readsAs {limit : Nat}
    (hread : ∀ {t core}, Stands t core → core.length ≤ limit → ReadsAs read t core)
    {m : Name × Tree × Nat} {text : List Char} (h : StandsMember m text)
    (hlimit : text.length ≤ limit) :
    ∃ before body, text = before ++ '"' :: body ∧ Blank before ∧
      ∀ {members : List (Name × Tree × Nat)} {tail rest : List Char} {fuel : Nat}, Closes tail →
        (∀ offset, ∃ members' stop,
          readMembers read fuel false ⟨tail, offset⟩ =
            (members', .closed stop, some ⟨rest, stop⟩) ∧ AlikeMembers members members') →
        ∀ offset, ∃ members' stop,
          readMembers.member read fuel ⟨'"' :: (body ++ tail), offset⟩ =
            (members', .closed stop, some ⟨rest, stop⟩) ∧
            AlikeMembers (m :: members) members' := by
  obtain @⟨r, t, body, _, core, _, hbody, hr, hleft, hvalue, hright, mark, next⟩ := h
  obtain @⟨before, colon, hbefore, hcolon⟩ := hleft
  obtain @⟨space, after, hspace, hafter⟩ := hright
  simp only [List.length_append, List.length_cons] at hlimit
  refine ⟨before, body ++ '"' :: (colon ++ ':' :: (space ++ (core ++ after))), by simp, hbefore, ?_⟩
  intro members tail rest fuel htail hmembers offset
  obtain ⟨r', quote, hquote, hr'⟩ := readString_loose hbody offset
    (colon ++ ':' :: (space ++ (core ++ (after ++ tail))))
  have hname : r.toOption = r'.toOption := Option.ext fun s => (hr s).trans (hr' s).symm
  have hnoBlank : NoBlank (':' :: (space ++ (core ++ (after ++ tail)))) := by
    rintro _ ⟨⟩
    rfl
  obtain ⟨mark', hmark⟩ := Cursor.skipBlank_append hcolon hnoBlank quote
  obtain ⟨start, hstart⟩ :=
    Cursor.skipBlank_append hspace (hvalue.starts.append (after ++ tail)).noBlank (mark' + 1)
  obtain ⟨t', behind, hread, halike⟩ := hread hvalue (by omega) start (hafter.ends htail.ends)
  obtain ⟨next', hnext⟩ := Cursor.skipBlank_append hafter htail.noBlank behind
  obtain ⟨members', stop, hreads, hmembers⟩ := hmembers next'
  have htext : '"' :: (body ++ '"' :: (colon ++ ':' :: (space ++ (core ++ after))) ++ tail) =
      '"' :: (body ++ '"' :: (colon ++ ':' :: (space ++ (core ++ (after ++ tail))))) := by simp
  have hafterColon :
      (Cursor.mk (':' :: (space ++ (core ++ (after ++ tail)))) mark').next.skipBlank =
      ⟨core ++ (after ++ tail), start⟩ := hstart
  refine ⟨(⟨r', mark'⟩, t', next') :: members', stop, ?_,
    .cons hname halike hmembers mark next mark' next'⟩
  rw [htext, readMembers.member, hquote]
  simp only [hmark, hafterColon, hread, hnext, hreads]

theorem readMembers_close (rest : List Char) (fuel offset : Nat) (first : Bool) :
    readMembers read (fuel + 1) first ⟨'\x7d' :: rest, offset⟩ =
      ([], .closed (offset + 1), some ⟨rest, offset + 1⟩) := by
  simp [readMembers, Cursor.next]
  rfl

theorem readMembers_first (text : List Char) (fuel offset : Nat) :
    readMembers read (fuel + 1) true ⟨'"' :: text, offset⟩ =
      readMembers.member read fuel ⟨'"' :: text, offset⟩ := by
  simp [readMembers]

theorem readMembers_comma {before : List Char} (hbefore : Blank before) (text : List Char)
    (fuel offset : Nat) :
    ∃ start, readMembers read (fuel + 1) false ⟨',' :: (before ++ '"' :: text), offset⟩ =
      readMembers.member read fuel ⟨'"' :: text, start⟩ := by
  have hnoBlank : NoBlank ('"' :: text) := by
    rintro _ ⟨⟩
    rfl
  obtain ⟨start, hstart⟩ := Cursor.skipBlank_append hbefore hnoBlank (offset + 1)
  have hnext : (Cursor.mk (',' :: (before ++ '"' :: text)) offset).next.skipBlank =
      ⟨'"' :: text, start⟩ := hstart
  exact ⟨start, by simp [readMembers, hnext]⟩

theorem members_readsAs {limit : Nat}
    (hread : ∀ {t core}, Stands t core → core.length ≤ limit → ReadsAs read t core)
    {members : List (Name × Tree × Nat)} {text : List Char} (h : StandMembers members text)
    (hlimit : text.length ≤ limit) {fuel : Nat} (hfuel : text.length ≤ fuel) (rest : List Char) :
    ∃ before body, text = before ++ '"' :: body ∧ Blank before ∧
      ∀ offset, ∃ members' stop,
        readMembers.member read fuel ⟨'"' :: (body ++ '\x7d' :: rest), offset⟩ =
          (members', .closed stop, some ⟨rest, stop⟩) ∧ AlikeMembers members members' := by
  induction members generalizing text fuel with
  | nil => cases h
  | cons m members ih =>
    cases h with
    | last head =>
      obtain ⟨before, body, rfl, hbefore, hmember⟩ := member_readsAs hread head hlimit
      simp only [List.length_append, List.length_cons] at hfuel
      obtain ⟨fuel, rfl⟩ := Nat.exists_eq_add_of_le' (by omega : 1 ≤ fuel)
      refine ⟨before, body, rfl, hbefore, hmember (closes_cons (.inr (.inr rfl)) rest) ?_⟩
      exact fun offset => ⟨[], offset + 1, readMembers_close rest fuel offset false, .nil⟩
    | @cons _ _ left more head tail =>
      simp only [List.length_append, List.length_cons] at hlimit hfuel
      obtain ⟨fuel, rfl⟩ := Nat.exists_eq_add_of_le' (by omega : 1 ≤ fuel)
      obtain ⟨before, body, rfl, hbefore, hmember⟩ := member_readsAs hread head (by omega)
      obtain ⟨before', body', rfl, hbefore', hmembers⟩ := @ih more tail (by omega) fuel (by omega)
      refine ⟨before, body ++ ',' :: (before' ++ '"' :: body'), by simp, hbefore, ?_⟩
      intro offset
      have htext : body ++ ',' :: (before' ++ '"' :: body') ++ '\x7d' :: rest =
          body ++ ',' :: (before' ++ '"' :: (body' ++ '\x7d' :: rest)) := by simp
      rw [htext]
      refine hmember (closes_cons (.inl rfl) _) (fun offset => ?_) offset
      obtain ⟨start, hcomma⟩ := readMembers_comma hbefore' (body' ++ '\x7d' :: rest) fuel offset
      rw [hcomma]
      exact hmembers start

theorem read_readNumber {c : Char} (hc : c = '-' ∨ c.isDigit) (rest : List Char)
    (fuel offset : Nat) :
    Tree.read (fuel + 1) ⟨c :: rest, offset⟩ = readNumber ⟨c :: rest, offset⟩ := by
  have hne : ∀ d : Char, d ≠ '-' → d.isDigit = false → c ≠ d := by
    rintro d hminus hdigit rfl
    rcases hc with rfl | hc
    · exact hminus rfl
    · rw [hdigit] at hc
      cases hc
  simp [Tree.read, hne 'n', hne 't', hne 'f', hne '"', hne '[', hne '\x7b', hc]

theorem readNumber_text {n : Numeral} (hn : n.Sound) {rest : List Char} (hrest : n.EndsBefore rest)
    (offset : Nat) :
    ∃ r stop, readNumber ⟨n.text ++ rest, offset⟩ = (.number r stop, some ⟨rest, stop⟩) ∧
      r.toOption = n.value? := by
  obtain ⟨stop, hskip⟩ := Numeral.skip_text hn hrest offset
  refine ⟨(Number.read ⟨n.text ++ rest, offset⟩).map (·.1), stop, by rw [readNumber, hskip], ?_⟩
  rw [toOption_map]
  exact Numeral.given_read hn hrest offset

theorem read_array {fuel offset stop : Nat} {text rest : List Char}
    {items : List (Nat × Tree × Nat)}
    (h : readItems (Tree.read fuel) (fuel + 1) true (Cursor.mk text (offset + 1)).skipBlank =
      (items, .closed stop, some ⟨rest, stop⟩)) :
    Tree.read (fuel + 1) ⟨'[' :: text, offset⟩ =
      (.array offset items (.closed stop), some ⟨rest, stop⟩) := by
  have hread : Tree.read (fuel + 1) ⟨'[' :: text, offset⟩ =
      let r := readItems (Tree.read fuel) (fuel + 1) true (Cursor.mk text (offset + 1)).skipBlank
      (.array offset r.1 r.2.1, r.2.2) := rfl
  rw [hread, h]

theorem read_object {fuel offset stop : Nat} {text rest : List Char}
    {members : List (Name × Tree × Nat)}
    (h : readMembers (Tree.read fuel) (fuel + 1) true (Cursor.mk text (offset + 1)).skipBlank =
      (members, .closed stop, some ⟨rest, stop⟩)) :
    Tree.read (fuel + 1) ⟨'\x7b' :: text, offset⟩ =
      (.object offset members (.closed stop), some ⟨rest, stop⟩) := by
  have hread : Tree.read (fuel + 1) ⟨'\x7b' :: text, offset⟩ =
      let r := readMembers (Tree.read fuel) (fuel + 1) true (Cursor.mk text (offset + 1)).skipBlank
      (.object offset r.1 r.2.1, r.2.2) := rfl
  rw [hread, h]

/-- **What stands in a text is read** there. The length of the text is fuel enough. -/
theorem read_stands {t : Tree} {core : List Char} (h : t.Stands core) {fuel : Nat}
    (hfuel : core.length ≤ fuel) : ReadsAs (Tree.read fuel) t core := by
  -- On the fuel and not on the tree, since what is between brackets is shorter by two at least.
  induction fuel generalizing t core with
  | zero => exact absurd h.starts.length_pos (by omega)
  | succ fuel ih =>
    intro offset rest hrest
    cases h with
    | null stop => exact ⟨.null (offset + 4), offset + 4, rfl, .null _ _⟩
    | true stop => exact ⟨.bool true (offset + 4), offset + 4, rfl, .bool true _ _⟩
    | false stop => exact ⟨.bool false (offset + 5), offset + 5, rfl, .bool false _ _⟩
    | @number n r hn hr stop =>
      obtain ⟨r', stop', hread, hr'⟩ := readNumber_text hn (hrest.endsBefore n) offset
      obtain ⟨c, more, htext, hc⟩ := Numeral.text_eq_cons hn
      refine ⟨.number r' stop', stop', ?_, .number (hr.trans hr'.symm) stop stop'⟩
      rw [← hread, htext, List.cons_append, read_readNumber hc]
    | @string r body hbody hr stop =>
      obtain ⟨r', stop', hread, hr'⟩ := readString_loose hbody offset rest
      have hsame : r.toOption = r'.toOption := Option.ext fun s => (hr s).trans (hr' s).symm
      refine ⟨.string r' stop', stop', ?_, .string hsame stop stop'⟩
      rw [← hread, List.cons_append, List.append_assoc, List.singleton_append]
      rfl
    | @emptyArray blank hblank start stop =>
      obtain ⟨first, hfirst⟩ :=
        Cursor.skipBlank_append hblank (closes_cons (.inr (.inl rfl)) rest).noBlank (offset + 1)
      refine ⟨.array offset [] (.closed (first + 1)), first + 1, ?_, .array .nil start stop _ _⟩
      rw [List.cons_append, List.append_assoc, List.singleton_append]
      exact read_array (hfirst ▸ readItems_close rest fuel first true)
    | @array items text hitems start stop =>
      simp only [List.length_cons, List.length_append, List.length_nil] at hfuel
      obtain ⟨before, body, rfl, hbefore, hbody, hread⟩ :=
        items_readsAs (fun h => ih h) hitems (by omega : _ ≤ fuel) (by omega : _ ≤ fuel) rest
      have hstarts := hbody.append (']' :: rest)
      obtain ⟨first, hfirst⟩ := Cursor.skipBlank_append hbefore hstarts.noBlank (offset + 1)
      obtain ⟨items', stop', hitem, halike⟩ := hread first
      refine ⟨.array offset items' (.closed stop'), stop', ?_, .array halike start stop _ _⟩
      have htext : '[' :: (before ++ body ++ [']']) ++ rest =
          '[' :: (before ++ (body ++ ']' :: rest)) := by simp
      rw [htext]
      refine read_array ?_
      rw [hfirst, readItems_first hstarts, hitem]
    | @emptyObject blank hblank start stop =>
      obtain ⟨first, hfirst⟩ :=
        Cursor.skipBlank_append hblank (closes_cons (.inr (.inr rfl)) rest).noBlank (offset + 1)
      refine ⟨.object offset [] (.closed (first + 1)), first + 1, ?_, .object .nil start stop _ _⟩
      rw [List.cons_append, List.append_assoc, List.singleton_append]
      exact read_object (hfirst ▸ readMembers_close rest fuel first true)
    | @object members text hmembers start stop =>
      simp only [List.length_cons, List.length_append, List.length_nil] at hfuel
      obtain ⟨before, body, rfl, hbefore, hread⟩ :=
        members_readsAs (fun h => ih h) hmembers (by omega : _ ≤ fuel) (by omega : _ ≤ fuel) rest
      have hnoBlank : NoBlank ('"' :: (body ++ '\x7d' :: rest)) := by
        rintro _ ⟨⟩
        rfl
      obtain ⟨first, hfirst⟩ := Cursor.skipBlank_append hbefore hnoBlank (offset + 1)
      obtain ⟨members', stop', hmember, halike⟩ := hread first
      refine ⟨.object offset members' (.closed stop'), stop', ?_, .object halike start stop _ _⟩
      have htext : '\x7b' :: (before ++ '"' :: body ++ ['\x7d']) ++ rest =
          '\x7b' :: (before ++ '"' :: (body ++ '\x7d' :: rest)) := by simp
      rw [htext]
      refine read_object ?_
      rw [hfirst, readMembers_first]
      exact hmember

end Tree

end MangaReader.Json
