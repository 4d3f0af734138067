import BoardLint.Json.Reader
import BoardLint.Proofs.Json.Members
import BoardLint.Proofs.Json.Number

set_option autoImplicit false

/-! # Values of JSON texts

What can be the value of a text: no key of an object occurs twice, arrays and objects are nested at
most as deep as the reader allows, and the whole numbers are those of 64 bits. -/

namespace BoardLint.Json

/-! ## Values of texts -/

/-- The value can stand where arrays and objects may be nested `depth` deep: no key of an object
    occurs twice, and every number satisfies `P`. -/
inductive Fits (P : Number → Prop) : Nat → Json → Prop
  | null {depth : Nat} : Fits P depth .null
  | bool {depth : Nat} {b : Bool} : Fits P depth (.bool b)
  | num {depth : Nat} {n : Number} (h : P n) : Fits P depth (.num n)
  | str {depth : Nat} {s : String} : Fits P depth (.str s)
  | arr {depth : Nat} {items : List Json} (h : ∀ v ∈ items, Fits P depth v) :
      Fits P (depth + 1) (.arr items)
  | obj {depth : Nat} {members : Members} (hkeys : (members.map (·.1)).Nodup)
      (h : ∀ m ∈ members, Fits P depth m.2) : Fits P (depth + 1) (.obj members)

mutual

/-- The numbers of a value. -/
def numbers : Json → List Number
  | .num n => [n]
  | .arr items => numbersOfItems items
  | .obj members => numbersOfMembers members
  | _ => []

/-- The numbers of the items of an array. -/
def numbersOfItems : List Json → List Number
  | [] => []
  | v :: rest => numbers v ++ numbersOfItems rest

/-- The numbers of the members of an object. -/
def numbersOfMembers : List (String × Json) → List Number
  | [] => []
  | (_, v) :: rest => numbers v ++ numbersOfMembers rest

end

theorem mem_numbersOfItems {items : List Json} {v : Json} (hv : v ∈ items) {n : Number}
    (hn : n ∈ v.numbers) : n ∈ numbersOfItems items := by
  induction items with
  | nil => cases hv
  | cons w rest ih =>
      rw [numbersOfItems, List.mem_append]
      rcases List.mem_cons.mp hv with rfl | hv
      · exact .inl hn
      · exact .inr (ih hv)

theorem mem_numbersOfMembers {members : Members} {m : String × Json} (hm : m ∈ members)
    {n : Number} (hn : n ∈ m.2.numbers) : n ∈ numbersOfMembers members := by
  induction members with
  | nil => cases hm
  | cons w rest ih =>
      rw [numbersOfMembers, List.mem_append]
      rcases List.mem_cons.mp hm with rfl | hm
      · exact .inl hn
      · exact .inr (ih hm)

theorem Fits.of_numbers {P Q : Number → Prop} {depth : Nat} {j : Json} (h : j.Fits P depth)
    (hQ : ∀ n ∈ j.numbers, P n → Q n) : j.Fits Q depth := by
  induction h with
  | null => exact .null
  | bool => exact .bool
  | num hn => exact .num (hQ _ (by simp [numbers]) hn)
  | str => exact .str
  | arr _ ih =>
      refine .arr fun v hv => ih v hv fun n hn => hQ n ?_
      exact mem_numbersOfItems hv hn
  | obj hkeys _ ih =>
      refine .obj hkeys fun m hm => ih m hm fun n hn => hQ n ?_
      exact mem_numbersOfMembers hm hn

/-! ## Merging -/

theorem mergedItems_eq (items : List Json) : mergedItems items = items.map merged := by
  induction items with
  | nil => rfl
  | cons v rest ih => rw [mergedItems, ih, List.map_cons]

theorem mergedMembers_eq (members : Members) :
    mergedMembers members = members.map fun m => (m.1, merged m.2) := by
  induction members with
  | nil => rfl
  | cons m rest ih => rw [mergedMembers, ih, List.map_cons]

theorem Fits.merged {P : Number → Prop} {depth : Nat} {j : Json} (h : j.Fits P depth) :
    j.merged = j := by
  induction h with
  | null => rfl
  | bool => rfl
  | num => rfl
  | str => rfl
  | arr _ ih =>
      rw [Json.merged, mergedItems_eq, List.map_congr_left ih, List.map_id']
  | obj hkeys _ ih =>
      have hmap := List.map_congr_left fun m hm =>
        show (m.1, Json.merged m.2) = m from Prod.ext rfl (ih m hm)
      rw [Json.merged, mergedMembers_eq, hmap, List.map_id', Members.merge_eq_self hkeys]

/-! ## Numbers of a text -/

/-- The number of a token, if it has one, is a number of 64 bits or a double. -/
def Token.Represented (t : Token) : Prop := ∀ n, t = .num (some n) → n.Represented

theorem Token.represented_of_scanOne? {c : Char} {text rest : List Char} {t : Token}
    (h : scanOne? c text = some (t, rest)) : t.Represented := by
  rintro n rfl
  unfold scanOne? at h
  split at h
  · next token hsingle =>
    have hne : single? c ≠ some (.num (some n)) := by
      unfold single?
      repeat' split
      all_goals nofun
    cases h
    exact absurd hsingle hne
  · split at h
    · obtain ⟨_, _, heq⟩ := Option.map_eq_some_iff.mp h
      cases heq
    · split at h
      · obtain ⟨⟨value, tail⟩, hscan, heq⟩ := Option.map_eq_some_iff.mp h
        cases heq
        exact Number.represented_of_scan? hscan
      · unfold scanWord? at h
        split at h
        · cases h
        · split at h
          · cases h
          · obtain ⟨_, _, heq⟩ := Option.map_eq_some_iff.mp h
            cases heq

theorem Token.represented_of_scan? {fuel : Nat} {done tokens : List Token} {text : List Char}
    (h : scan? fuel done text = some tokens) (hdone : ∀ t ∈ done, t.Represented) :
    ∀ t ∈ tokens, t.Represented := by
  induction fuel generalizing done text with
  | zero =>
      cases text with
      | nil =>
          cases h
          simpa using hdone
      | cons c text => cases h
  | succ fuel ih =>
      cases text with
      | nil =>
          cases h
          simpa using hdone
      | cons c text =>
          rw [scan?] at h
          split at h
          · exact ih h hdone
          · split at h
            · next hone =>
              exact ih h (List.forall_mem_cons.mpr ⟨represented_of_scanOne? hone, hdone⟩)
            · cases h

/-- Every number of an outline is a number of 64 bits or a double. -/
inductive Outline.Represented : Outline → Prop
  | null : Represented .null
  | bool {b : Bool} : Represented (.bool b)
  | num {value : Option Number} (h : ∀ n ∈ value, n.Represented) : Represented (.num value)
  | str {s : Option String} : Represented (.str s)
  | arr {items : List Outline} (h : ∀ o ∈ items, Represented o) : Represented (.arr items)
  | obj {members : List (Option String × Outline)} (h : ∀ m ∈ members, Represented m.2) :
      Represented (.obj members)

namespace Reader

/-- What is in an open array or object is represented. -/
def Frame.Represented : Frame → Prop
  | .arr done => ∀ o ∈ done, o.Represented
  | .obj done _ => ∀ m ∈ done, m.2.Represented

/-- What a mode holds is represented. -/
def Mode.Represented : Mode → Prop
  | .value | .firstItem => True
  | .firstKey done | .key done | .colon done _ | .afterMember done => ∀ m ∈ done, m.2.Represented
  | .afterItem done => ∀ o ∈ done, o.Represented
  | .finish outline => outline.Represented

/-- Everything the machine holds is represented. -/
structure State.Represented (s : State) : Prop where
  frames : ∀ f ∈ s.frames, f.Represented
  mode : s.mode.Represented

theorem represented_deliver {value : Outline} (hvalue : value.Represented) {frames : List Frame}
    (hframes : ∀ f ∈ frames, f.Represented) : (deliver value frames).Represented := by
  cases frames with
  | nil => exact ⟨nofun, hvalue⟩
  | cons frame frames =>
      obtain ⟨hframe, hrest⟩ := List.forall_mem_cons.mp hframes
      cases frame with
      | arr done => exact ⟨hrest, List.forall_mem_cons.mpr ⟨hvalue, hframe⟩⟩
      | obj done key => exact ⟨hrest, List.forall_mem_cons.mpr ⟨hvalue, hframe⟩⟩

theorem represented_beginValue {frames : List Frame} (hframes : ∀ f ∈ frames, f.Represented)
    {t : Token} (ht : t.Represented) {s : State} (h : beginValue frames t = some s) :
    s.Represented := by
  cases t with
  | null =>
      cases h
      exact represented_deliver .null hframes
  | bool b =>
      cases h
      exact represented_deliver .bool hframes
  | num value =>
      cases h
      exact represented_deliver (.num fun n hn => ht n (congrArg _ hn)) hframes
  | str s =>
      cases h
      exact represented_deliver .str hframes
  | openArray =>
      cases h
      exact ⟨hframes, trivial⟩
  | openObject =>
      cases h
      exact ⟨hframes, nofun⟩
  | _ => cases h

theorem represented_step {s s' : State} (hs : s.Represented) {t : Token} (ht : t.Represented)
    (h : step s t = some s') : s'.Represented := by
  obtain ⟨hframes, hmode⟩ := hs
  unfold step at h
  split at h
  · exact represented_beginValue hframes ht h
  · cases h
    exact represented_deliver (.arr (List.forall_mem_nil _)) hframes
  · have hopen : (Frame.arr []).Represented := List.forall_mem_nil _
    exact represented_beginValue (List.forall_mem_cons.mpr ⟨hopen, hframes⟩) ht h
  · cases h
    exact represented_deliver (.obj (List.forall_mem_nil _)) hframes
  -- a key and a comma after a member leave what the object holds as it is
  · next hs =>
    cases h
    rw [hs] at hmode
    exact ⟨hframes, hmode⟩
  · next hs =>
    cases h
    rw [hs] at hmode
    exact ⟨hframes, hmode⟩
  · next hs =>
    cases h
    rw [hs] at hmode
    exact ⟨List.forall_mem_cons.mpr ⟨hmode, hframes⟩, trivial⟩
  · next hs =>
    cases h
    rw [hs] at hmode
    exact ⟨List.forall_mem_cons.mpr ⟨hmode, hframes⟩, trivial⟩
  · next hs =>
    cases h
    rw [hs] at hmode
    exact represented_deliver (.arr fun o ho => hmode o (List.mem_reverse.mp ho)) hframes
  · next hs =>
    cases h
    rw [hs] at hmode
    exact ⟨hframes, hmode⟩
  · next hs =>
    cases h
    rw [hs] at hmode
    exact represented_deliver (.obj fun m hm => hmode m (List.mem_reverse.mp hm)) hframes
  · cases h

theorem represented_run {s s' : State} (hs : s.Represented) {tokens : List Token}
    (htokens : ∀ t ∈ tokens, t.Represented) (h : run s tokens = some s') : s'.Represented := by
  induction tokens generalizing s with
  | nil =>
      cases h
      exact hs
  | cons t tokens ih =>
      obtain ⟨ht, htokens⟩ := List.forall_mem_cons.mp htokens
      rw [run] at h
      split at h
      · next hstep => exact ih (represented_step hs ht hstep) htokens h
      · cases h

end Reader

theorem Outline.represented_of_parse? {text : String} {o : Outline} (h : parse? text = some o) :
    o.Represented := by
  obtain ⟨tokens, htokens, h⟩ := Option.bind_eq_some_iff.mp h
  have hstart : Reader.State.Represented ⟨[], .value⟩ := ⟨nofun, trivial⟩
  unfold ofTokens? at h
  split at h
  · next hrun =>
    cases h
    exact (Reader.represented_run hstart (Token.represented_of_scan? htokens nofun) hrun).mode
  · cases h

/-! ## Reading an outline -/

namespace Outline

theorem exists_value?_of_items? {depth : Nat} {outlines : List Outline} {items : List Json}
    (h : items? depth [] .whole outlines = some items) :
    ∀ v ∈ items, ∃ o ∈ outlines, value? depth .whole o = some v := by
  induction outlines generalizing items with
  | nil =>
      cases h
      simp
  | cons o rest ih =>
      rw [items?] at h
      split at h
      · next v vs hv hvs =>
        cases h
        intro w hw
        rcases List.mem_cons.mp hw with rfl | hw
        · exact ⟨o, .head _, hv⟩
        · obtain ⟨o, ho, hw⟩ := ih hvs w hw
          exact ⟨o, .tail _ ho, hw⟩
      · cases h

theorem exists_value?_of_members? {depth : Nat} {outlines : List (Option String × Outline)}
    {members : Members} (h : members? depth [] .whole outlines = some members) :
    ∀ m ∈ members, ∃ x ∈ outlines, value? depth .whole x.2 = some m.2 := by
  induction outlines generalizing members with
  | nil =>
      cases h
      simp
  | cons x rest ih =>
      obtain ⟨_ | key, o⟩ := x
      · cases h
      · rw [members?] at h
        split at h
        · next v vs hv hvs =>
          cases h
          intro m hm
          rcases List.mem_cons.mp hm with rfl | hm
          · exact ⟨_, .head _, hv⟩
          · obtain ⟨x, hx, hm⟩ := ih hvs m hm
            exact ⟨x, .tail _ hx, hm⟩
        · cases h

/-- What is read of an outline fits into the depth it was read with. -/
theorem fits_of_value? {depth : Nat} {o : Outline} {j : Json} (ho : o.Represented)
    (h : value? depth .whole o = some j) : j.merged.Fits Number.Represented depth := by
  induction depth using Nat.strongRecOn generalizing o j with
  | ind depth ih =>
      cases ho with
      | null =>
          cases h
          exact .null
      | bool =>
          cases h
          exact .bool
      | num hn =>
          obtain ⟨n, rfl, rfl⟩ := Option.map_eq_some_iff.mp h
          exact .num (hn n rfl)
      | str =>
          obtain ⟨s, _, rfl⟩ := Option.map_eq_some_iff.mp h
          exact .str
      | arr houtlines =>
          cases depth with
          | zero => cases h
          | succ depth =>
              obtain ⟨items, hitems, rfl⟩ := Option.map_eq_some_iff.mp h
              rw [Json.merged, mergedItems_eq]
              refine .arr fun v hv => ?_
              obtain ⟨w, hw, rfl⟩ := List.mem_map.mp hv
              obtain ⟨o, ho, hvalue⟩ := exists_value?_of_items? hitems w hw
              exact ih depth (Nat.lt_succ_self _) (houtlines o ho) hvalue
      | obj houtlines =>
          cases depth with
          | zero => cases h
          | succ depth =>
              obtain ⟨members, hmembers, rfl⟩ := Option.map_eq_some_iff.mp h
              rw [Json.merged, mergedMembers_eq]
              refine .obj (Members.nodup_merge _) fun m hm => ?_
              obtain ⟨x, hx, rfl⟩ := List.mem_map.mp (Members.mem_of_mem_merge m hm)
              obtain ⟨y, hy, hvalue⟩ := exists_value?_of_members? hmembers x hx
              exact ih depth (Nat.lt_succ_self _) (houtlines y hy) hvalue

end Outline

/-- The value of a text has no repeated keys, is not nested too deep, and its whole numbers are
    numbers of 64 bits. -/
theorem fits_of_parse? {text : String} {j : Json} (h : parse? text = some j) :
    j.Fits Number.Represented Outline.maxDepth := by
  obtain ⟨value, hvalue, rfl⟩ := Option.map_eq_some_iff.mp h
  obtain ⟨o, ho, hvalue⟩ := Option.bind_eq_some_iff.mp hvalue
  exact Outline.fits_of_value? (Outline.represented_of_parse? ho) hvalue

end BoardLint.Json
