import BoardLint.Proofs.Diff.Script

set_option autoImplicit false

/-! # Scripts from a table of lengths

`Script.best` makes scripts along with the number of lines they keep. The same edits come of the
numbers alone: a table has them for all suffixes of both lists, and a walk through it, with a
position in each list, takes the way that keeps more lines (`Script.edits_best_eq_walk`). Every
entry that the walk looks at is there. -/

namespace BoardLint.Diff

/-! ## The table -/

/-- The lengths for a list that begins with `a` and every suffix of another, from those of its
    tail. -/
def lengthRow (a : String) : List String → List Nat → List Nat
  | [], _ => [0]
  | b :: bs, below =>
    let rest := lengthRow a bs below.tail
    (if a == b then below.tail.headD 0 + 1 else max (below.headD 0) (rest.headD 0)) :: rest

/-- The table of lengths, filled from the last row: the cell in row `i` and column `j` is for the
    first list without `i` lines and the second without `j`. -/
def lengthTable (new : List String) : List String → List (List Nat)
  | [] => [List.replicate (new.length + 1) 0]
  | a :: old =>
    let below := lengthTable new old
    lengthRow a new (below.headD []) :: below

/-- The entry of a table in a row and a column. -/
def cell? (table : List (List Nat)) (i j : Nat) : Option Nat :=
  table[i]?.bind fun row => row[j]?

namespace Script

theorem kept_extend (a b : String) (both first second : Script) :
    (extend a b both first second).kept =
      if a == b then both.kept + 1 else max first.kept second.kept := by
  unfold extend
  split
  · rfl
  · split
    · next hge => exact (Nat.max_eq_left hge).symm
    · next hlt => exact (Nat.max_eq_right (Nat.le_of_not_ge hlt)).symm

theorem kept_headD (scripts : List Script) :
    (scripts.headD empty).kept = (scripts.map kept).headD 0 := by
  cases scripts <;> rfl

theorem lengthRow_map_kept (a : String) (new : List String) (below : List Script) :
    lengthRow a new (below.map kept) = (row a new below).map kept := by
  induction new generalizing below with
  | nil => rfl
  | cons b new ih =>
      rw [lengthRow, row, List.map_cons, kept_extend, kept_headD, kept_headD, kept_headD, ← ih,
        List.map_tail]

theorem map_kept_additions (new : List String) :
    (additions new).map kept = List.replicate (new.length + 1) 0 := by
  induction new with
  | nil => rfl
  | cons b new ih =>
      rw [additions, List.map_cons, ih]
      rfl

/-- A row of the table has the lengths of the scripts from a suffix of the first list. -/
theorem getElem?_lengthTable (new : List String) {old : List String} {i : Nat}
    (hi : i ≤ old.length) :
    (lengthTable new old)[i]? = some ((toSuffixes (old.drop i) new).map kept) := by
  induction old generalizing i with
  | nil =>
      obtain rfl := Nat.le_zero.mp hi
      exact congrArg some (map_kept_additions new).symm
  | cons a old ih =>
      cases i with
      | zero =>
          have hbelow : (lengthTable new old).headD [] = (toSuffixes old new).map kept := by
            rw [List.headD_eq_head?_getD, List.head?_eq_getElem?, ih (Nat.zero_le _)]
            rfl
          show some (lengthRow a new ((lengthTable new old).headD [])) = _
          rw [hbelow, lengthRow_map_kept]
          rfl
      | succ i => exact ih (Nat.le_of_succ_le_succ hi)

/-- Every entry of the table is there, and it is how many lines the best script of two suffixes
    keeps. -/
theorem cell?_lengthTable {old new : List String} {i j : Nat} (hi : i ≤ old.length)
    (hj : j ≤ new.length) :
    cell? (lengthTable new old) i j = some (best (old.drop i) (new.drop j)).kept := by
  rw [cell?, getElem?_lengthTable new hi, Option.bind_some, List.getElem?_map,
    getElem?_toSuffixes _ _ hj]
  rfl

end Script

/-! ## The walk -/

/-- The edits of a walk from a position in each list. A line that both lists have there is kept;
    otherwise the walk goes on in the list whose next entry is greater, in the first one if both are
    the same. At the end of one list the rest of the other is removed or added. -/
def walk (table : List (List Nat)) (old new : List String) (i j : Nat) : List Edit :=
  if h : i < old.length ∧ j < new.length then
    if old[i] == new[j] then .keep old[i] :: walk table old new (i + 1) (j + 1)
    else if (cell? table (i + 1) j).getD 0 ≥ (cell? table i (j + 1)).getD 0 then
      .remove old[i] :: walk table old new (i + 1) j
    else .add new[j] :: walk table old new i (j + 1)
  else (old.drop i).map .remove ++ (new.drop j).map .add
termination_by old.length - i + (new.length - j)

namespace Script

theorem edits_best_drop_eq_walk {old new : List String} {i j : Nat} (hi : i ≤ old.length)
    (hj : j ≤ new.length) :
    (best (old.drop i) (new.drop j)).edits = walk (lengthTable new old) old new i j := by
  -- the walk follows the entries, and the script was chosen by the same numbers
  fun_induction walk (lengthTable new old) old new i j with
  | case1 i j h heq ih =>
      rw [List.drop_eq_getElem_cons h.1, List.drop_eq_getElem_cons h.2, best_cons_cons, extend,
        if_pos heq]
      exact congrArg _ (ih h.1 h.2)
  | case2 i j h hne hge ih =>
      rw [cell?_lengthTable h.1 hj, cell?_lengthTable hi h.2, Option.getD_some, Option.getD_some,
        List.drop_eq_getElem_cons h.1, List.drop_eq_getElem_cons h.2] at hge
      rw [List.drop_eq_getElem_cons h.1, List.drop_eq_getElem_cons h.2, best_cons_cons, extend,
        if_neg hne, if_pos hge, ← List.drop_eq_getElem_cons h.2]
      exact congrArg _ (ih h.1 hj)
  | case3 i j h hne hlt ih =>
      rw [cell?_lengthTable h.1 hj, cell?_lengthTable hi h.2, Option.getD_some, Option.getD_some,
        List.drop_eq_getElem_cons h.1, List.drop_eq_getElem_cons h.2] at hlt
      rw [List.drop_eq_getElem_cons h.1, List.drop_eq_getElem_cons h.2, best_cons_cons, extend,
        if_neg hne, if_neg hlt, ← List.drop_eq_getElem_cons h.1]
      exact congrArg _ (ih hi h.2)
  | case4 i j h =>
      rcases not_and_or.mp h with hend | hend
      · rw [List.drop_eq_nil_of_le (Nat.le_of_not_lt hend), best_nil_left]
        rfl
      · rw [List.drop_eq_nil_of_le (Nat.le_of_not_lt hend), best_nil_right]
        exact (List.append_nil _).symm

/-- The best script is the walk through the table of lengths from its first entry. -/
theorem edits_best_eq_walk (old new : List String) :
    (best old new).edits = walk (lengthTable new old) old new 0 0 :=
  edits_best_drop_eq_walk (Nat.zero_le _) (Nat.zero_le _)

end Script

/-- Between the common ends the lines are replaced as a whole, or the walk tells what becomes of
    them. -/
theorem middleEdits_eq_walk (old new : List String) : middleEdits old new =
    if old.length * new.length > maxCells then old.map .remove ++ new.map .add
    else walk (lengthTable new old) old new 0 0 := by
  rw [middleEdits, Script.edits_best_eq_walk]

end BoardLint.Diff
