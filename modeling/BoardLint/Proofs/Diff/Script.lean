import BoardLint.Diff.Edit
import Mathlib.Data.List.Basic

set_option autoImplicit false

/-! # Edit scripts are exact and keep as much as possible

An edit script is exact if the lines it is about are those of both lists. The table of scripts is
filled from the ends of the lists, and each of its entries is the best script of two suffixes
(`Script.getElem?_toSuffixes`). Trimming common lines at both ends loses nothing, also where the
same lines could be taken for the beginning and for the end: what is trimmed at the end is looked
for behind what was trimmed at the beginning. -/

namespace BoardLint.Diff

/-! ## Longest common subsequences -/

/-- The greatest length of a list that can be got from both lists by dropping lines. -/
structure IsLongest (old new : List String) (n : Nat) : Prop where
  attained : ∃ common : List String, common.Sublist old ∧ common.Sublist new ∧ common.length = n
  bound : ∀ common : List String, common.Sublist old → common.Sublist new → common.length ≤ n

namespace IsLongest

variable {old new : List String} {n : Nat}

theorem nil_left (new : List String) : IsLongest [] new 0 where
  attained := ⟨[], .slnil, List.nil_sublist new, rfl⟩
  bound _ hold _ := Nat.le_of_eq (congrArg List.length (List.sublist_nil.mp hold))

theorem nil_right (old : List String) : IsLongest old [] 0 where
  attained := ⟨[], List.nil_sublist old, .slnil, rfl⟩
  bound _ _ hnew := Nat.le_of_eq (congrArg List.length (List.sublist_nil.mp hnew))

/-- A line that both lists begin with is in a longest common subsequence. -/
theorem cons (h : IsLongest old new n) (a : String) : IsLongest (a :: old) (a :: new) (n + 1) := by
  obtain ⟨⟨common, hold, hnew, rfl⟩, hbound⟩ := h
  refine ⟨⟨a :: common, hold.cons_cons a, hnew.cons_cons a, rfl⟩, fun c hc hc' => ?_⟩
  cases c with
  | nil => exact Nat.zero_le _
  | cons x rest =>
      -- without its first line, a common subsequence is one of the tails
      have htail : (x :: rest).tail = rest := rfl
      have hrest := hbound rest (htail ▸ hc.tail) (htail ▸ hc'.tail)
      exact Nat.succ_le_succ hrest

/-- Of two lists that begin with different lines, one of the lines is not needed. -/
theorem cons_of_ne {a b : String} (hne : a ≠ b) {m k : Nat} (hfirst : IsLongest old (b :: new) m)
    (hsecond : IsLongest (a :: old) new k) : IsLongest (a :: old) (b :: new) (max m k) := by
  constructor
  · rcases Nat.le_total k m with hle | hle
    · obtain ⟨common, hold, hnew, hlength⟩ := hfirst.attained
      exact ⟨common, hold.cons a, hnew, by rw [hlength, Nat.max_eq_left hle]⟩
    · obtain ⟨common, hold, hnew, hlength⟩ := hsecond.attained
      exact ⟨common, hold, hnew.cons b, by rw [hlength, Nat.max_eq_right hle]⟩
  · intro common hold hnew
    cases hold with
    | cons _ hold => exact Nat.le_trans (hfirst.bound common hold hnew) (Nat.le_max_left m k)
    | cons_cons _ hold =>
        cases hnew with
        | cons _ hnew =>
            exact Nat.le_trans (hsecond.bound _ (hold.cons_cons a) hnew) (Nat.le_max_right m k)
        | cons_cons _ hnew => exact absurd rfl hne

theorem reverse (h : IsLongest old new n) : IsLongest old.reverse new.reverse n := by
  obtain ⟨⟨common, hold, hnew, hlength⟩, hbound⟩ := h
  refine ⟨⟨common.reverse, hold.reverse, hnew.reverse, ?_⟩, fun c hc hc' => ?_⟩
  · rw [List.length_reverse, hlength]
  · rw [← List.length_reverse]
    exact hbound _ (List.reverse_sublist.mp (by rwa [List.reverse_reverse]))
      (List.reverse_sublist.mp (by rwa [List.reverse_reverse]))

theorem append_left (h : IsLongest old new n) (front : List String) :
    IsLongest (front ++ old) (front ++ new) (front.length + n) := by
  induction front with
  | nil => rwa [List.nil_append, List.nil_append, List.length_nil, Nat.zero_add]
  | cons a front ih =>
      rw [List.length_cons, Nat.add_right_comm]
      exact ih.cons a

theorem append_right (h : IsLongest old new n) (back : List String) :
    IsLongest (old ++ back) (new ++ back) (n + back.length) := by
  have hreversed := (h.reverse.append_left back.reverse).reverse
  rwa [List.reverse_append, List.reverse_append, List.reverse_reverse, List.reverse_reverse,
    List.reverse_reverse, List.length_reverse, Nat.add_comm] at hreversed

end IsLongest

/-! ## Scripts -/

/-- How many lines a script keeps. -/
def keptCount (edits : List Edit) : Nat := edits.countP fun e => !e.isChange

/-- The edits lead from the first list to the second. -/
structure Leads (old new : List String) (edits : List Edit) : Prop where
  old_eq : edits.filterMap Edit.old? = old
  new_eq : edits.filterMap Edit.new? = new

theorem Leads.append {old new old' new' : List String} {edits edits' : List Edit}
    (h : Leads old new edits) (h' : Leads old' new' edits') :
    Leads (old ++ old') (new ++ new') (edits ++ edits') where
  old_eq := by rw [List.filterMap_append, h.old_eq, h'.old_eq]
  new_eq := by rw [List.filterMap_append, h.new_eq, h'.new_eq]

theorem leads_keep (lines : List String) : Leads lines lines (lines.map .keep) where
  old_eq := by induction lines <;> simp_all [Edit.old?]
  new_eq := by induction lines <;> simp_all [Edit.new?]

theorem leads_remove (lines : List String) : Leads lines [] (lines.map .remove) where
  old_eq := by induction lines <;> simp_all [Edit.old?]
  new_eq := by induction lines <;> simp_all [Edit.new?]

theorem leads_add (lines : List String) : Leads [] lines (lines.map .add) where
  old_eq := by induction lines <;> simp_all [Edit.old?]
  new_eq := by induction lines <;> simp_all [Edit.new?]

theorem keptCount_append (edits edits' : List Edit) :
    keptCount (edits ++ edits') = keptCount edits + keptCount edits' :=
  List.countP_append ..

theorem keptCount_of_isChange {edits : List Edit} (h : ∀ e ∈ edits, e.isChange = true) :
    keptCount edits = 0 := by
  rw [keptCount, List.countP_eq_zero]
  exact fun e he => by simp [h e he]

theorem keptCount_keep (lines : List String) : keptCount (lines.map .keep) = lines.length := by
  rw [keptCount, List.countP_map, List.countP_eq_length]
  exact fun _ _ => rfl

namespace Script

/-! ## The table -/

variable (a b : String) (old new : List String)

theorem toSuffixes_cons_left : toSuffixes (a :: old) new = row a new (toSuffixes old new) := rfl

/-- The entries for a list without its first line are those behind the first one. -/
theorem toSuffixes_cons_right :
    toSuffixes old (b :: new) = best old (b :: new) :: toSuffixes old new := by
  have htail : (toSuffixes old (b :: new)).tail = toSuffixes old new ∧
      toSuffixes old (b :: new) ≠ [] := by
    induction old with
    | nil => exact ⟨rfl, List.cons_ne_nil _ _⟩
    | cons a old ih =>
        rw [toSuffixes_cons_left, toSuffixes_cons_left, row, ih.1]
        exact ⟨rfl, List.cons_ne_nil _ _⟩
  obtain ⟨first, rest, hrows⟩ := List.exists_cons_of_ne_nil htail.2
  rw [best, hrows, ← htail.1, hrows]
  rfl

theorem toSuffixes_nil_right : toSuffixes old [] = [best old []] := by
  cases old <;> rfl

theorem best_nil_left : best [] new = ⟨0, new.map .add⟩ := by
  induction new with
  | nil => rfl
  | cons b new ih =>
      have hrest : (additions new).headD empty = ⟨0, new.map .add⟩ := ih
      show Script.mk 0 (.add b :: ((additions new).headD empty).edits) = _
      rw [hrest]
      rfl

theorem best_nil_right : best old [] = ⟨0, old.map .remove⟩ := by
  induction old with
  | nil => rfl
  | cons a old ih =>
      have hbelow : (toSuffixes old []).headD empty = ⟨0, old.map .remove⟩ := ih
      show Script.mk 0 (.remove a :: ((toSuffixes old []).headD empty).edits) = _
      rw [hbelow]
      rfl

/-- The best script of two lists comes from those of their tails. -/
theorem best_cons_cons : best (a :: old) (b :: new) =
    extend a b (best old new) (best old (b :: new)) (best (a :: old) new) := by
  have hrest : (row a new (toSuffixes old new)).headD empty = best (a :: old) new := rfl
  have hbelow : (toSuffixes old new).headD empty = best old new := rfl
  rw [best, toSuffixes_cons_left, toSuffixes_cons_right, row, List.tail_cons, hrest, hbelow]
  rfl

/-- Every entry of the table is there, and it is the best script of two suffixes. -/
theorem getElem?_toSuffixes {j : Nat} (hj : j ≤ new.length) :
    (toSuffixes old new)[j]? = some (best old (new.drop j)) := by
  induction new generalizing j with
  | nil =>
      obtain rfl := Nat.le_zero.mp hj
      rw [toSuffixes_nil_right]
      rfl
  | cons b new ih =>
      rw [toSuffixes_cons_right]
      cases j with
      | zero => rfl
      | succ j =>
          rw [List.getElem?_cons_succ, List.drop_succ_cons]
          exact ih (Nat.le_of_succ_le_succ hj)

/-! ## The best script -/

variable {a b old new}

/-- The script leads from one list to the other and keeps as many lines as possible. -/
structure Optimal (old new : List String) (s : Script) : Prop where
  leads : Leads old new s.edits
  kept_eq : s.kept = keptCount s.edits
  longest : IsLongest old new s.kept

theorem Optimal.extend {both first second : Script} (hboth : Optimal old new both)
    (hfirst : Optimal old (b :: new) first) (hsecond : Optimal (a :: old) new second) :
    Optimal (a :: old) (b :: new) (extend a b both first second) := by
  unfold Script.extend
  by_cases hab : a = b
  · subst hab
    rw [if_pos (beq_self_eq_true a)]
    refine ⟨(leads_keep [a]).append hboth.leads, ?_, hboth.longest.cons a⟩
    rw [hboth.kept_eq, Nat.add_comm]
    exact (keptCount_append [.keep a] both.edits).symm
  · rw [if_neg (by simpa using hab)]
    have hlongest := hfirst.longest.cons_of_ne hab hsecond.longest
    by_cases hge : first.kept ≥ second.kept
    · rw [if_pos hge]
      rw [Nat.max_eq_left hge] at hlongest
      exact ⟨(leads_remove [a]).append hfirst.leads, hfirst.kept_eq, hlongest⟩
    · rw [if_neg hge]
      rw [Nat.max_eq_right (Nat.le_of_not_ge hge)] at hlongest
      exact ⟨(leads_add [b]).append hsecond.leads, hsecond.kept_eq, hlongest⟩

theorem optimal_best (old new : List String) : Optimal old new (best old new) := by
  induction old generalizing new with
  | nil =>
      rw [best_nil_left]
      refine ⟨leads_add new, (keptCount_of_isChange fun e he => ?_).symm, .nil_left new⟩
      obtain ⟨line, -, rfl⟩ := List.mem_map.mp he
      rfl
  | cons a old ih =>
      induction new with
      | nil =>
          rw [best_nil_right]
          refine ⟨leads_remove _, (keptCount_of_isChange fun e he => ?_).symm, .nil_right _⟩
          obtain ⟨line, -, rfl⟩ := List.mem_map.mp he
          rfl
      | cons b new ihnew =>
          rw [best_cons_cons]
          exact (ih new).extend (ih (b :: new)) ihnew

end Script

/-! ## Whole scripts -/

theorem take_commonLength (old new : List String) :
    commonLength old new ≤ old.length ∧ commonLength old new ≤ new.length ∧
      old.take (commonLength old new) = new.take (commonLength old new) := by
  fun_induction commonLength old new with
  | case1 a as b bs hab ih =>
      obtain ⟨hold, hnew, htake⟩ := ih
      refine ⟨Nat.succ_le_succ hold, Nat.succ_le_succ hnew, ?_⟩
      rw [List.take_succ_cons, List.take_succ_cons, htake, beq_iff_eq.mp hab]
  | case2 => exact ⟨Nat.zero_le _, Nat.zero_le _, rfl⟩
  | case3 => exact ⟨Nat.zero_le _, Nat.zero_le _, rfl⟩

/-- How many lines two lists have in common at the end, behind those at the beginning. -/
def commonBack (old new : List String) : Nat :=
  commonLength (old.drop (commonLength old new)).reverse (new.drop (commonLength old new)).reverse

/-- The lines between a number of lines at the beginning and a number of lines at the end. -/
def between (front back : Nat) (lines : List String) : List String :=
  (lines.drop front).take ((lines.drop front).length - back)

/-- The last lines, behind a number of lines at the beginning. -/
def behind (front back : Nat) (lines : List String) : List String :=
  (lines.drop front).drop ((lines.drop front).length - back)

theorem take_between_behind (front back : Nat) (lines : List String) :
    lines.take front ++ between front back lines ++ behind front back lines = lines := by
  rw [List.append_assoc, between, behind, List.take_append_drop, List.take_append_drop]

theorem length_between {front back : Nat} {lines : List String}
    (h : back ≤ (lines.drop front).length) (hfront : front ≤ lines.length) :
    front + (between front back lines).length + back = lines.length := by
  rw [between, List.length_take, List.length_drop] at *
  omega

/-- The ends that are trimmed are common to both lists and do not overlap. -/
theorem common_ends (old new : List String) :
    let front := commonLength old new
    let back := commonBack old new
    (old.take front = new.take front ∧ behind front back old = behind front back new) ∧
    front + (between front back old).length + back = old.length ∧
    front + (between front back new).length + back = new.length := by
  intro front back
  obtain ⟨hold, hnew, htake⟩ := take_commonLength old new
  obtain ⟨hbackOld, hbackNew, hback⟩ :=
    take_commonLength (old.drop front).reverse (new.drop front).reverse
  rw [List.length_reverse] at hbackOld hbackNew
  rw [List.take_reverse, List.take_reverse, List.reverse_inj] at hback
  exact ⟨⟨htake, hback⟩, length_between hbackOld hold, length_between hbackNew hnew⟩

theorem leads_middleEdits (old new : List String) : Leads old new (middleEdits old new) := by
  unfold middleEdits
  split
  · have h := (leads_remove old).append (leads_add new)
    rwa [List.append_nil, List.nil_append] at h
  · exact (Script.optimal_best old new).leads

theorem edits_eq (old new : List String) :
    let front := commonLength old new
    let back := commonBack old new
    edits old new = (old.take front).map .keep ++
      middleEdits (between front back old) (between front back new) ++
      (behind front back old).map .keep := rfl

/-- Both lists are their middle lines within the ends of the first. -/
theorem middle_within_ends (old new : List String) :
    let front := commonLength old new
    let back := commonBack old new
    old.take front ++ between front back old ++ behind front back old = old ∧
    old.take front ++ between front back new ++ behind front back old = new := by
  intro front back
  obtain ⟨⟨htake, hbehind⟩, -⟩ := common_ends old new
  refine ⟨take_between_behind front back old, ?_⟩
  rw [htake, hbehind]
  exact take_between_behind front back new

/-- The edits lead from one list to the other. -/
theorem leads_edits (old new : List String) : Leads old new (edits old new) := by
  obtain ⟨hold, hnew⟩ := middle_within_ends old new
  set front := commonLength old new
  set back := commonBack old new
  have h := ((leads_keep (old.take front)).append (leads_middleEdits
    (between front back old) (between front back new))).append (leads_keep (behind front back old))
  rwa [hold, hnew] at h

/-- **Line edits are exact and keep as many lines as possible.** Without the additions the edits are
    the lines of the first list, without the removals those of the second, whether the lines between
    the common ends are compared or replaced as a whole. The common ends do not overlap in either
    list, and every entry of the table that is looked at is there: it is the best script of the two
    suffixes that it stands for. Where the lines are compared, no list of lines that both lists
    contain in order is longer than the lines that are kept. -/
theorem edits_exact (old new : List String) :
    let front := commonLength old new
    let back := commonBack old new
    let oldMiddle := between front back old
    let newMiddle := between front back new
    (edits old new).filterMap Edit.old? = old ∧
    (edits old new).filterMap Edit.new? = new ∧
    (front + oldMiddle.length + back = old.length ∧
      front + newMiddle.length + back = new.length) ∧
    (∀ i ≤ oldMiddle.length, ∀ j ≤ newMiddle.length,
      (Script.toSuffixes (oldMiddle.drop i) newMiddle)[j]? =
        some (Script.best (oldMiddle.drop i) (newMiddle.drop j))) ∧
    (oldMiddle.length * newMiddle.length ≤ maxCells →
      IsLongest old new (keptCount (edits old new))) := by
  intro front back oldMiddle newMiddle
  obtain ⟨-, hlengths⟩ := common_ends old new
  obtain ⟨hold, hnew⟩ := middle_within_ends old new
  have hleads : Leads old new (edits old new) := leads_edits old new
  refine ⟨hleads.old_eq, hleads.new_eq, hlengths, fun i _ j hj => ?_, fun hcells => ?_⟩
  · exact Script.getElem?_toSuffixes (oldMiddle.drop i) newMiddle hj
  · have hbest := Script.optimal_best oldMiddle newMiddle
    have hmiddle : middleEdits oldMiddle newMiddle = (Script.best oldMiddle newMiddle).edits :=
      if_neg (Nat.not_lt.mpr hcells)
    have hkept : keptCount (edits old new) =
        (old.take front).length + (Script.best oldMiddle newMiddle).kept +
          (behind front back old).length := by
      rw [edits_eq, keptCount_append, keptCount_append, keptCount_keep, keptCount_keep, hmiddle,
        hbest.kept_eq]
    have hlongest := (hbest.longest.append_left (old.take front)).append_right
      (behind front back old)
    rwa [hold, hnew, ← hkept] at hlongest

/-- Two lists that begin with a line that also ends them: one such line is trimmed at each end, and
    of the two lines between that changed places one is kept. -/
theorem edits_exact_swapped :
    let old := ["a", "a", "b", "c", "a"]
    let new := ["a", "c", "b", "a"]
    (between 1 1 old).length * (between 1 1 new).length ≤ maxCells ∧
    edits old new =
      [.keep "a", .remove "a", .remove "b", .keep "c", .add "b", .keep "a"] ∧
    IsLongest old new 3 := by
  intro old new
  have hends : commonLength old new = 1 ∧ commonBack old new = 1 := by decide +revert
  have hcells : (between 1 1 old).length * (between 1 1 new).length ≤ maxCells := by
    decide +revert
  have hedits : edits old new =
      [.keep "a", .remove "a", .remove "b", .keep "c", .add "b", .keep "a"] := by
    decide +revert
  obtain ⟨-, -, -, -, hlongest⟩ := edits_exact old new
  rw [hends.1, hends.2, hedits] at hlongest
  exact ⟨hcells, hedits, hlongest hcells⟩

end BoardLint.Diff
