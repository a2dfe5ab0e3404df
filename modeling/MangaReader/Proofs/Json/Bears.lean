import MangaReader.Proofs.Json.Spelling

/-!
# The value in a tree

A tree is sound if nothing in it is broken off or refused. Then a value stands in it, and that value
is taken from it, unless its brackets are nested too deeply.

* `Tree.Bears` : a sound tree and the value that stands in it.
* `Value.ofTree_eq_ok_iff` : **the value taken from a tree is the one that stands in it**.
-/

namespace MangaReader.Json

namespace Tree

mutual

/-- A sound tree and the value that stands in it. -/
inductive Bears : Tree → Value → Prop
  | null (stop : Nat) : Bears (.null stop) .null
  | bool (b : Bool) (stop : Nat) : Bears (.bool b stop) (.bool b)
  | number (n : Number) (stop : Nat) : Bears (.number (.ok n) stop) (.number n)
  | string (s : String) (stop : Nat) : Bears (.string (.ok s) stop) (.string s)
  | array {items : List (Nat × Tree × Nat)} {vs : List Value} {ending : Ending}
    (h : BearItems items vs) (hending : ending.listBreak? = none) (start : Nat) :
    Bears (.array start items ending) (.array vs)
  | object {members : List (Name × Tree × Nat)} {pairs : List (String × Value)} {ending : Ending}
    (h : BearMembers members pairs) (hending : ending.objectBreak? = none) (start : Nat) :
    Bears (.object start members ending) (.object pairs)

inductive BearItems : List (Nat × Tree × Nat) → List Value → Prop
  | nil : BearItems [] []
  | cons {t : Tree} {v : Value} {items : List (Nat × Tree × Nat)} {vs : List Value}
    (head : Bears t v) (tail : BearItems items vs) (start next : Nat) :
    BearItems ((start, t, next) :: items) (v :: vs)

inductive BearMembers : List (Name × Tree × Nat) → List (String × Value) → Prop
  | nil : BearMembers [] []
  | cons {t : Tree} {v : Value} {members : List (Name × Tree × Nat)}
    {pairs : List (String × Value)} (name : String) (head : Bears t v)
    (tail : BearMembers members pairs) (mark next : Nat) :
    BearMembers ((⟨.ok name, mark⟩, t, next) :: members) ((name, v) :: pairs)

end

end Tree

namespace Value

theorem itemsOf_eq_ok_iff {depth : Nat} {ending : Ending} {items : List (Nat × Tree × Nat)}
    {vs : List Value}
    (h : ∀ t v, ofTree (depth + 1) t = .ok v ↔ t.Bears v ∧ v.Within depth) :
    itemsOf (depth + 1) ending items = .ok vs ↔
      Tree.BearItems items vs ∧ ending.listBreak? = none ∧ ∀ v ∈ vs, v.Within depth := by
  induction items generalizing vs with
  | nil =>
    rw [itemsOf]
    cases ending.listBreak? with
    | some b => simp
    | none =>
      constructor
      · rintro ⟨⟩
        exact ⟨.nil, rfl, nofun⟩
      · rintro ⟨⟨⟩, -⟩
        rfl
  | cons item items ih =>
    obtain ⟨start, t, next⟩ := item
    rw [itemsOf]
    constructor
    · intro hok
      obtain ⟨v, hv, hok⟩ := bind_eq_ok_iff.mp hok
      obtain ⟨others, hothers, hok⟩ := bind_eq_ok_iff.mp hok
      obtain rfl := Except.ok.inj hok
      obtain ⟨hbears, hwithin⟩ := (h t v).mp hv
      obtain ⟨htail, hending, hall⟩ := ih.mp hothers
      exact ⟨.cons hbears htail start next, hending, List.forall_mem_cons.mpr ⟨hwithin, hall⟩⟩
    · rintro ⟨_ | @⟨_, v, _, others, hbears, htail⟩, hending, hall⟩
      obtain ⟨hwithin, hall⟩ := List.forall_mem_cons.mp hall
      exact bind_eq_ok_iff.mpr ⟨v, (h t v).mpr ⟨hbears, hwithin⟩,
        bind_eq_ok_iff.mpr ⟨others, ih.mpr ⟨htail, hending, hall⟩, rfl⟩⟩

theorem membersOf_eq_ok_iff {depth : Nat} {ending : Ending} {members : List (Name × Tree × Nat)}
    {pairs : List (String × Value)}
    (h : ∀ t v, ofTree (depth + 1) t = .ok v ↔ t.Bears v ∧ v.Within depth) :
    membersOf (depth + 1) ending members = .ok pairs ↔
      Tree.BearMembers members pairs ∧ ending.objectBreak? = none ∧
        ∀ pair ∈ pairs, pair.2.Within depth := by
  induction members generalizing pairs with
  | nil =>
    rw [membersOf]
    cases ending.objectBreak? with
    | some b => simp
    | none =>
      constructor
      · rintro ⟨⟩
        exact ⟨.nil, rfl, nofun⟩
      · rintro ⟨⟨⟩, -⟩
        rfl
  | cons member members ih =>
    obtain ⟨⟨read, mark⟩, t, next⟩ := member
    rw [membersOf]
    constructor
    · intro hok
      obtain ⟨name, hname, hok⟩ := bind_eq_ok_iff.mp hok
      obtain ⟨v, hv, hok⟩ := bind_eq_ok_iff.mp hok
      obtain ⟨others, hothers, hok⟩ := bind_eq_ok_iff.mp hok
      obtain rfl := Except.ok.inj hok
      obtain rfl : read = .ok name := hname
      obtain ⟨hbears, hwithin⟩ := (h t v).mp hv
      obtain ⟨htail, hending, hall⟩ := ih.mp hothers
      exact ⟨.cons name hbears htail mark next, hending,
        List.forall_mem_cons.mpr ⟨hwithin, hall⟩⟩
    · rintro ⟨_ | @⟨_, v, _, others, name, hbears, htail⟩, hending, hall⟩
      obtain ⟨hwithin, hall⟩ := List.forall_mem_cons.mp hall
      exact bind_eq_ok_iff.mpr ⟨name, rfl, bind_eq_ok_iff.mpr ⟨v, (h t v).mpr ⟨hbears, hwithin⟩,
        bind_eq_ok_iff.mpr ⟨others, ih.mpr ⟨htail, hending, hall⟩, rfl⟩⟩⟩

/-- **The value taken from a tree is the one that stands in it**, if its brackets fit the
allowance. -/
theorem ofTree_eq_ok_iff {depth : Nat} {t : Tree} {v : Value} :
    ofTree (depth + 1) t = .ok v ↔ t.Bears v ∧ v.Within depth := by
  induction depth using Nat.strongRecOn generalizing t v with
  | ind depth ih =>
    cases t with
    | null stop =>
      rw [ofTree]
      exact ⟨fun h => Except.ok.inj h ▸ ⟨.null stop, .null depth⟩, fun ⟨h, _⟩ => by cases h; rfl⟩
    | bool b stop =>
      rw [ofTree]
      exact ⟨fun h => Except.ok.inj h ▸ ⟨.bool b stop, .bool depth b⟩,
        fun ⟨h, _⟩ => by cases h; rfl⟩
    | number value stop =>
      rw [ofTree, map_eq_ok_iff]
      constructor
      · rintro ⟨n, rfl, rfl⟩
        exact ⟨.number n stop, .number depth n⟩
      · rintro ⟨⟨⟩, -⟩
        exact ⟨_, rfl, rfl⟩
    | string value stop =>
      rw [ofTree, map_eq_ok_iff]
      constructor
      · rintro ⟨s, rfl, rfl⟩
        exact ⟨.string s stop, .string depth s⟩
      · rintro ⟨⟨⟩, -⟩
        exact ⟨_, rfl, rfl⟩
    | broken b =>
      rw [ofTree]
      exact ⟨nofun, fun ⟨h, _⟩ => nomatch h⟩
    | array start items ending =>
      rw [ofTree]
      cases depth with
      | zero => exact ⟨nofun, fun ⟨h, hwithin⟩ => by cases h; cases hwithin⟩
      | succ depth =>
        have hitem : ∀ t v, ofTree (depth + 1) t = .ok v ↔ t.Bears v ∧ v.Within depth :=
          fun t v => ih depth (Nat.lt_succ_self depth)
        rw [if_neg (by omega), map_eq_ok_iff]
        constructor
        · rintro ⟨vs, hvs, rfl⟩
          obtain ⟨hbears, hending, hall⟩ := (itemsOf_eq_ok_iff hitem).mp hvs
          exact ⟨.array hbears hending start, .array hall⟩
        · rintro ⟨hbears, hwithin⟩
          cases hbears with
          | @array _ vs _ hbears hending =>
            cases hwithin with
            | array hall => exact ⟨vs, (itemsOf_eq_ok_iff hitem).mpr ⟨hbears, hending, hall⟩, rfl⟩
    | object start members ending =>
      rw [ofTree]
      cases depth with
      | zero => exact ⟨nofun, fun ⟨h, hwithin⟩ => by cases h; cases hwithin⟩
      | succ depth =>
        have hvalue : ∀ t v, ofTree (depth + 1) t = .ok v ↔ t.Bears v ∧ v.Within depth :=
          fun t v => ih depth (Nat.lt_succ_self depth)
        rw [if_neg (by omega), map_eq_ok_iff]
        constructor
        · rintro ⟨pairs, hpairs, rfl⟩
          obtain ⟨hbears, hending, hall⟩ := (membersOf_eq_ok_iff hvalue).mp hpairs
          exact ⟨.object hbears hending start, .object hall⟩
        · rintro ⟨hbears, hwithin⟩
          cases hbears with
          | @object _ pairs _ hbears hending =>
            cases hwithin with
            | object hall =>
              exact ⟨pairs, (membersOf_eq_ok_iff hvalue).mpr ⟨hbears, hending, hall⟩, rfl⟩

end Value

end MangaReader.Json
