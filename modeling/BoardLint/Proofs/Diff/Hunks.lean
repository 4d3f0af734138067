import BoardLint.Diff.Unified
import BoardLint.Proofs.Diff.Script
import Mathlib.Data.List.Basic

set_option autoImplicit false

/-! # Unified diffs can be applied

The changes of an edit script are taken from the front, and the stretch around each one is joined
with the last stretch when they touch. `Surrounds` says what such stretches are to the changes that
were taken so far; it is kept by one more change (`Surrounds.add`) and so holds of all of them
(`surrounds_spans`). The hunks of these stretches say where their lines are in both texts, show no
more unchanged lines than they should, and turn the old text into the new one. -/

namespace BoardLint.Diff

/-! ## Stretches around changes -/

/-- An edit script has a change at a position. -/
def ChangeAt (script : List Edit) (i : Nat) : Prop :=
  ∃ e, script[i]? = some e ∧ e.isChange = true

/-- Stretches of a script with `count` edits around changes: they lie apart in increasing order,
    each change is in one of them, each begins before a change and ends behind a change as far away
    as context is shown, and a change that is not the last one of its stretch has the next one close
    behind it. -/
structure Surrounds (count : Nat) (changed : List Nat) (spans : List Span) : Prop where
  apart : spans.Pairwise fun s s' => s.stop < s'.start
  covers : ∀ i ∈ changed, ∃ s ∈ spans, s.start ≤ i ∧ i < s.stop
  ends : ∀ s ∈ spans, ∃ first ∈ changed, ∃ last ∈ changed, first ≤ last ∧
    s.start = first - contextLines ∧ s.stop = min (last + contextLines + 1) count
  linked : ∀ s ∈ spans, ∀ i ∈ changed, s.start ≤ i → i + contextLines + 1 < s.stop →
    ∃ j ∈ changed, i < j ∧ j ≤ i + 2 * contextLines + 1

theorem addSpan_concat (front : List Span) (last s : Span) :
    addSpan (front ++ [last]) s =
      if s.start ≤ last.stop then front ++ [⟨last.start, s.stop⟩] else front ++ [last] ++ [s] := by
  simp only [addSpan, List.getLast?_concat, List.dropLast_concat]

namespace Surrounds

variable {count i : Nat} {changed : List Nat} {spans front : List Span} {s last : Span}

theorem nil (count : Nat) : Surrounds count [] [] where
  apart := .nil
  covers := by simp
  ends := by simp
  linked := by simp

/-- A stretch ends at most as far behind a later change as context is shown. -/
theorem stop_le (h : Surrounds count changed spans) (hs : s ∈ spans)
    (hlater : ∀ j ∈ changed, j < i) : s.stop ≤ min (i + contextLines) count := by
  obtain ⟨-, -, last, hlast, -, -, hstop⟩ := h.ends s hs
  have := hlater last hlast
  omega

theorem start_le (h : Surrounds count changed spans) (hs : s ∈ spans)
    (hlater : ∀ j ∈ changed, j < i) : s.start ≤ i := by
  obtain ⟨first, hfirst, -, -, -, hstart, -⟩ := h.ends s hs
  have := hlater first hfirst
  omega

/-- The bounds of the stretches are those of changes, also when there are more changes. -/
theorem ends_append (h : Surrounds count changed spans) (hs : s ∈ spans) (i : Nat) :
    ∃ first ∈ changed ++ [i], ∃ last ∈ changed ++ [i], first ≤ last ∧
      s.start = first - contextLines ∧ s.stop = min (last + contextLines + 1) count := by
  obtain ⟨first, hfirst, last, hlast, hends⟩ := h.ends s hs
  exact ⟨first, List.mem_append_left _ hfirst, last, List.mem_append_left _ hlast, hends⟩

/-- A later change is no change in front of the last one of an earlier stretch. -/
theorem linked_append (h : Surrounds count changed spans) (hs : s ∈ spans)
    (hlater : ∀ j ∈ changed, j < i) {k : Nat} (hk : k ∈ changed ++ [i]) (hstart : s.start ≤ k)
    (hstop : k + contextLines + 1 < s.stop) :
    ∃ j ∈ changed ++ [i], k < j ∧ j ≤ k + 2 * contextLines + 1 := by
  rcases List.mem_append.mp hk with hk | hk
  · obtain ⟨j, hj, hnext⟩ := h.linked s hs k hk hstart hstop
    exact ⟨j, List.mem_append_left _ hj, hnext⟩
  · obtain rfl := List.mem_singleton.mp hk
    have := h.stop_le hs hlater
    omega

/-- A change whose stretch does not touch the last one gets a stretch of its own. -/
theorem push (h : Surrounds count changed spans) (hi : i < count)
    (hlater : ∀ j ∈ changed, j < i) (hgap : ∀ s ∈ spans, s.stop < i - contextLines) :
    Surrounds count (changed ++ [i]) (spans ++ [Span.around count i]) where
  apart := by
    refine List.pairwise_append.mpr ⟨h.apart, List.pairwise_singleton _ _, ?_⟩
    intro s hs s' hs'
    obtain rfl := List.mem_singleton.mp hs'
    exact hgap s hs
  covers := by
    intro k hk
    rcases List.mem_append.mp hk with hk | hk
    · obtain ⟨s, hs, hin⟩ := h.covers k hk
      exact ⟨s, List.mem_append_left _ hs, hin⟩
    · obtain rfl := List.mem_singleton.mp hk
      refine ⟨_, List.mem_concat_self, ?_⟩
      simp only [Span.around]
      omega
  ends := by
    intro s hs
    rcases List.mem_append.mp hs with hs | hs
    · exact h.ends_append hs i
    · obtain rfl := List.mem_singleton.mp hs
      have hmem : i ∈ changed ++ [i] := List.mem_concat_self
      exact ⟨i, hmem, i, hmem, Nat.le_refl i, rfl, rfl⟩
  linked := by
    intro s hs k hk hstart hstop
    rcases List.mem_append.mp hs with hs | hs
    · exact h.linked_append hs hlater hk hstart hstop
    · obtain rfl := List.mem_singleton.mp hs
      simp only [Span.around] at hstop
      rcases List.mem_append.mp hk with hk | hk
      · have := hlater k hk
        simp only [Span.around] at hstart
        exact ⟨i, List.mem_concat_self, by omega, by omega⟩
      · obtain rfl := List.mem_singleton.mp hk
        omega

/-- A change whose stretch touches the last one lengthens it. -/
theorem extend (h : Surrounds count changed (front ++ [last])) (hi : i < count)
    (hlater : ∀ j ∈ changed, j < i) (htouch : i - contextLines ≤ last.stop) :
    Surrounds count (changed ++ [i])
      (front ++ [⟨last.start, min (i + contextLines + 1) count⟩]) := by
  have hlast : last ∈ front ++ [last] := List.mem_concat_self
  have hi' : i ∈ changed ++ [i] := List.mem_concat_self
  obtain ⟨hfront, -, hapart⟩ := List.pairwise_append.mp h.apart
  have hstop := h.stop_le hlast hlater
  have hstart := h.start_le hlast hlater
  constructor
  · refine List.pairwise_append.mpr ⟨hfront, List.pairwise_singleton _ _, ?_⟩
    intro s hs s' hs'
    obtain rfl := List.mem_singleton.mp hs'
    exact hapart s hs last (List.mem_singleton.mpr rfl)
  · intro k hk
    rcases List.mem_append.mp hk with hk | hk
    · obtain ⟨s, hs, hin⟩ := h.covers k hk
      rcases List.mem_append.mp hs with hs | hs
      · exact ⟨s, List.mem_append_left _ hs, hin⟩
      · obtain rfl := List.mem_singleton.mp hs
        refine ⟨_, List.mem_concat_self, ?_⟩
        dsimp only
        omega
    · obtain rfl := List.mem_singleton.mp hk
      refine ⟨_, List.mem_concat_self, ?_⟩
      dsimp only
      omega
  · intro s hs
    rcases List.mem_append.mp hs with hs | hs
    · exact h.ends_append (List.mem_append_left _ hs) i
    · obtain rfl := List.mem_singleton.mp hs
      obtain ⟨first, hfirst, -, -, -, hfirst_eq, -⟩ := h.ends last hlast
      exact ⟨first, List.mem_append_left _ hfirst, i, hi', Nat.le_of_lt (hlater first hfirst),
        hfirst_eq, rfl⟩
  · intro s hs k hk hk_start hk_stop
    rcases List.mem_append.mp hs with hs | hs
    · exact h.linked_append (List.mem_append_left _ hs) hlater hk hk_start hk_stop
    · obtain rfl := List.mem_singleton.mp hs
      dsimp only at hk_start hk_stop
      by_cases hinner : k + contextLines + 1 < last.stop
      · exact h.linked_append hlast hlater hk hk_start hinner
      · -- the change was the last one of the stretch, and the new one is close enough
        exact ⟨i, hi', by omega, by omega⟩

/-- **Stretches around changes, with one more change.** -/
theorem add (h : Surrounds count changed spans) (hi : i < count)
    (hlater : ∀ j ∈ changed, j < i) :
    Surrounds count (changed ++ [i]) (addSpan spans (Span.around count i)) := by
  rcases List.eq_nil_or_concat spans with rfl | ⟨front, last, rfl⟩
  · exact h.push hi hlater (by simp)
  · rw [List.concat_eq_append] at h ⊢
    rw [addSpan_concat]
    split
    · next htouch => exact h.extend hi hlater htouch
    · next hgap =>
        refine h.push hi hlater fun s hs => ?_
        have hgap : last.stop < i - contextLines := Nat.not_le.mp hgap
        rcases List.mem_append.mp hs with hs | hs
        · -- a stretch before the last one ends before the last one begins
          have hbefore := (List.pairwise_append.mp h.apart).2.2 s hs last
            (List.mem_singleton.mpr rfl)
          obtain ⟨first, -, j, hj, hle, hstart, hstop⟩ := h.ends last List.mem_concat_self
          have := hlater j hj
          omega
        · obtain rfl := List.mem_singleton.mp hs
          exact hgap

/-- All changes, one after another. -/
theorem foldl (h : Surrounds count changed spans) {rest : List Nat}
    (hincreasing : (changed ++ rest).Pairwise (· < ·)) (hbound : ∀ i ∈ rest, i < count) :
    Surrounds count (changed ++ rest)
      (rest.foldl (fun done i => addSpan done (Span.around count i)) spans) := by
  induction rest generalizing changed spans with
  | nil => rwa [List.append_nil]
  | cons i rest ih =>
      have hlater : ∀ j ∈ changed, j < i := fun j hj =>
        (List.pairwise_append.mp hincreasing).2.2 j hj i List.mem_cons_self
      rw [List.append_cons] at hincreasing ⊢
      exact ih (h.add (hbound i List.mem_cons_self) hlater) hincreasing
        fun j hj => hbound j (List.mem_cons_of_mem i hj)

end Surrounds

/-- The stretches of a script are those around its changes. -/
theorem surrounds_spans (script : List Edit) :
    ∃ changed : List Nat, (∀ i, i ∈ changed ↔ ChangeAt script i) ∧
      Surrounds script.length changed (spans script) := by
  have hpositions : script.zipIdx.Pairwise fun p p' => p.2 < p'.2 := by
    rw [← List.pairwise_map, List.zipIdx_map_snd]
    exact List.pairwise_lt_range'
  obtain ⟨changed, hspans, hmem, hincreasing⟩ : ∃ changed : List Nat,
      spans script =
        changed.foldl (fun done i => addSpan done (Span.around script.length i)) [] ∧
      (∀ i, i ∈ changed ↔ ChangeAt script i) ∧ changed.Pairwise (· < ·) := by
    refine ⟨_, rfl, fun i => ?_, ?_⟩
    · simp only [List.mem_filterMap, Prod.exists, List.mem_zipIdx_iff_getElem?, ChangeAt]
      constructor
      · rintro ⟨e, j, he, hj⟩
        obtain ⟨hchange, hj⟩ := Option.ite_none_right_eq_some.mp hj
        exact ⟨e, Option.some.inj hj ▸ he, hchange⟩
      · rintro ⟨e, he, hchange⟩
        exact ⟨e, i, he, if_pos hchange⟩
    · refine List.pairwise_filterMap.mpr (hpositions.imp ?_)
      intro p p' hlt i hi j hj
      obtain ⟨-, hi⟩ := Option.ite_none_right_eq_some.mp hi
      obtain ⟨-, hj⟩ := Option.ite_none_right_eq_some.mp hj
      rwa [Option.some.inj hi, Option.some.inj hj] at hlt
  refine ⟨changed, hmem, ?_⟩
  rw [hspans]
  refine (Surrounds.nil script.length).foldl hincreasing fun i hi => ?_
  obtain ⟨e, he, -⟩ := (hmem i).mp hi
  exact (List.getElem?_eq_some_iff.mp he).1

/-! ## Hunks and their stretches -/

namespace Hunk

/-- What the header of a hunk says is true: `b` lines of the old text from line `a` on are those
    that the hunk keeps or removes, and `d` lines of the new text from line `c` on are those that it
    keeps or adds. -/
structure Describes (old new : List String) (h : Hunk) (a b c d : Nat) : Prop where
  text_eq : h.text = "@@ -" ++ toString a ++ "," ++ toString b ++ " +" ++ toString c ++ "," ++
    toString d ++ " @@\n" ++ String.join (h.edits.map Edit.text)
  numbered : 1 ≤ a ∧ 1 ≤ c
  old_length : (h.edits.filterMap Edit.old?).length = b
  old_eq : h.edits.filterMap Edit.old? = (old.drop (a - 1)).take b
  new_length : (h.edits.filterMap Edit.new?).length = d
  new_eq : h.edits.filterMap Edit.new? = (new.drop (c - 1)).take d

/-- A hunk shows a change, and of the lines that are kept at most three before its first change, at
    most three behind its last change, and at most six between two changes. -/
structure Tight (h : Hunk) : Prop where
  changed : ∃ e ∈ h.edits, e.isChange = true
  before : ∀ front e back, h.edits = front ++ e :: back → e.isChange = true →
    (∀ x ∈ front, x.isChange = false) → front.length ≤ 3
  behind : ∀ front e back, h.edits = front ++ e :: back → e.isChange = true →
    (∀ x ∈ back, x.isChange = false) → back.length ≤ 3
  between : ∀ front e middle e' back, h.edits = front ++ e :: (middle ++ e' :: back) →
    e.isChange = true → e'.isChange = true → (∀ x ∈ middle, x.isChange = false) →
    middle.length ≤ 6

/-- Replaces the old lines of a hunk by its new ones. -/
def apply (h : Hunk) (lines : List String) : List String :=
  lines.take (h.oldStart - 1) ++ h.edits.filterMap Edit.new? ++
    lines.drop (h.oldStart - 1 + h.oldLength)

end Hunk

/-- Replaces the old lines of all hunks by their new ones. The last hunk comes first, so the line
    numbers of the others stay as they are. -/
def patch (hunks : List Hunk) (lines : List String) : List String := hunks.foldr Hunk.apply lines

/-- The edits before a position are those before an earlier one, and those between them. -/
theorem take_append_drop_take (script : List Edit) {m n : Nat} (h : m ≤ n) :
    script.take m ++ (script.take n).drop m = script.take n := by
  rw [show script.take m = (script.take n).take m by rw [List.take_take, Nat.min_eq_left h],
    List.take_append_drop]

/-- The edits from a position on are those up to a later one, and those from there on. -/
theorem drop_take_append_drop (script : List Edit) {m n : Nat} (h : m ≤ n) :
    (script.take n).drop m ++ script.drop n = script.drop m := by
  rw [List.drop_take, ← Nat.add_sub_cancel' h, Nat.add_sub_cancel_left, ← List.drop_drop,
    List.take_append_drop]

namespace Hunk

variable {script : List Edit} {old new : List String} {s : Span} {changed : List Nat}
  {spans : List Span}

theorem getElem?_edits_ofSpan (script : List Edit) (s : Span) (k : Nat) :
    (ofSpan script s).edits[k]? = if s.start + k < s.stop then script[s.start + k]? else none := by
  rw [ofSpan, List.getElem?_drop, List.getElem?_take]

/-- A script is what precedes a stretch, the stretch, and what follows it. -/
theorem take_edits_drop (script : List Edit) (h : s.start ≤ s.stop) :
    script.take s.start ++ (ofSpan script s).edits ++ script.drop s.stop = script := by
  rw [ofSpan, take_append_drop_take script h, List.take_append_drop]

/-- The lines of a text that a stretch is about, found by counting those before it. -/
theorem lines_ofSpan {read : Edit → Option String} {lines : List String}
    (hlines : script.filterMap read = lines) (h : s.start ≤ s.stop) :
    (lines.drop ((script.take s.start).filterMap read).length).take
      ((ofSpan script s).edits.filterMap read).length = (ofSpan script s).edits.filterMap read := by
  have hsplit := congrArg (List.filterMap read) (take_edits_drop script h)
  rw [List.filterMap_append, List.filterMap_append, hlines] at hsplit
  rw [← hsplit, List.append_assoc, List.drop_left, List.take_left]

theorem oldStart_ofSpan (script : List Edit) (s : Span) :
    (ofSpan script s).oldStart - 1 = ((script.take s.start).filterMap Edit.old?).length :=
  Nat.add_sub_cancel_left 1 _

theorem newStart_ofSpan (script : List Edit) (s : Span) :
    (ofSpan script s).newStart - 1 = ((script.take s.start).filterMap Edit.new?).length :=
  Nat.add_sub_cancel_left 1 _

theorem describes_ofSpan (hleads : Leads old new script) (h : s.start ≤ s.stop) :
    let hunk := ofSpan script s
    hunk.Describes old new hunk.oldStart hunk.oldLength hunk.newStart hunk.newLength where
  text_eq := rfl
  numbered := ⟨Nat.le_add_right 1 _, Nat.le_add_right 1 _⟩
  old_length := rfl
  old_eq := by
    rw [oldStart_ofSpan]
    exact (lines_ofSpan hleads.old_eq h).symm
  new_length := rfl
  new_eq := by
    rw [newStart_ofSpan]
    exact (lines_ofSpan hleads.new_eq h).symm

/-- Where a stretch has an edit, the script has it too. -/
theorem getElem?_script_of_eq {front back : List Edit} {e : Edit}
    (h : (ofSpan script s).edits = front ++ e :: back) :
    s.start + front.length < s.stop ∧ script[s.start + front.length]? = some e := by
  have hget : (ofSpan script s).edits[front.length]? = some e := by
    rw [h, List.getElem?_append_right (Nat.le_refl _), Nat.sub_self, List.getElem?_cons_zero]
  rw [getElem?_edits_ofSpan] at hget
  exact Option.ite_none_right_eq_some.mp hget

/-- A change of the script in a stretch is a change of the hunk, so it is not among lines that are
    kept. -/
theorem not_changeAt_of_eq {front middle back : List Edit}
    (h : (ofSpan script s).edits = front ++ (middle ++ back))
    (hkept : ∀ x ∈ middle, x.isChange = false) {i : Nat} (hi : ChangeAt script i)
    (hlow : s.start + front.length ≤ i) (hhigh : i < s.start + front.length + middle.length)
    (hstop : i < s.stop) : False := by
  obtain ⟨e, he, hchange⟩ := hi
  have hget : (ofSpan script s).edits[i - s.start]? = some e := by
    rw [getElem?_edits_ofSpan, if_pos (by omega), ← he]
    congr 1
    omega
  rw [h, List.getElem?_append_right (by omega), List.getElem?_append_left (by omega)] at hget
  rw [hkept e (List.mem_of_getElem? hget)] at hchange
  exact absurd hchange (by simp)

/-- A hunk of stretches around the changes shows no more context than it should. -/
theorem tight_ofSpan (hmem : ∀ i, i ∈ changed ↔ ChangeAt script i)
    (h : Surrounds script.length changed spans) (hs : s ∈ spans) : (ofSpan script s).Tight := by
  obtain ⟨first, hfirst, last, hlast, hle, hstart, hstop⟩ := h.ends s hs
  have hcontext : contextLines = 3 := rfl
  have hbound : ∀ i, ChangeAt script i → i < script.length := fun i ⟨_, he, _⟩ =>
    (List.getElem?_eq_some_iff.mp he).1
  rw [hmem] at hfirst hlast
  have hfirst_lt := hbound first hfirst
  have hlast_lt := hbound last hlast
  constructor
  · obtain ⟨e, he, hchange⟩ := hfirst
    refine ⟨e, List.mem_of_getElem? (i := first - s.start) ?_, hchange⟩
    rw [getElem?_edits_ofSpan, if_pos (by omega), ← he]
    congr 1
    omega
  · intro front e back heq _ hkept
    by_contra hlong
    have heq' : (ofSpan script s).edits = [] ++ (front ++ e :: back) := heq
    exact not_changeAt_of_eq heq' hkept hfirst
      (by rw [List.length_nil]; omega) (by rw [List.length_nil]; omega) (by omega)
  · intro front e back heq _ hkept
    by_contra hlong
    have hlength : (ofSpan script s).edits.length = s.stop - s.start := by
      rw [ofSpan, List.length_drop, List.length_take]
      omega
    rw [heq, List.length_append, List.length_cons] at hlength
    have heq' : (ofSpan script s).edits = (front ++ [e]) ++ (back ++ []) := by
      rw [heq, List.append_nil, List.append_assoc]
      rfl
    exact not_changeAt_of_eq heq' hkept hlast
      (by rw [List.length_append, List.length_singleton]; omega)
      (by rw [List.length_append, List.length_singleton]; omega) (by omega)
  · intro front e middle e' back heq hchange hchange' hkept
    obtain ⟨hin, he⟩ := getElem?_script_of_eq heq
    have heq' : (ofSpan script s).edits = (front ++ [e]) ++ (middle ++ e' :: back) := by
      rw [heq, List.append_assoc]
      rfl
    have heq'' : (ofSpan script s).edits = (front ++ e :: middle) ++ e' :: back := by
      rw [heq, List.append_assoc]
      rfl
    obtain ⟨hin', -⟩ := getElem?_script_of_eq heq''
    rw [List.length_append, List.length_cons] at hin'
    by_contra hlong
    -- the next change is closer than the second one
    obtain ⟨j, hj, hlt, hnear⟩ := h.linked s hs (s.start + front.length)
      ((hmem _).mpr ⟨e, he, hchange⟩) (Nat.le_add_right _ _) (by omega)
    exact not_changeAt_of_eq heq' hkept ((hmem j).mp hj)
      (by rw [List.length_append, List.length_singleton]; omega)
      (by rw [List.length_append, List.length_singleton]; omega) (by omega)

end Hunk

/-! ## Applying all hunks -/

/-- Lines that are kept are the same in both texts. -/
theorem filterMap_eq_of_kept {edits : List Edit} (h : ∀ e ∈ edits, e.isChange = false) :
    edits.filterMap Edit.old? = edits.filterMap Edit.new? := by
  refine List.filterMap_congr fun e he => ?_
  cases e with
  | keep line => rfl
  | remove line => exact absurd (h _ he) (by simp [Edit.isChange])
  | add line => exact absurd (h _ he) (by simp [Edit.isChange])

/-- The text whose first lines are those of the old text and whose other lines are those of the new
    one, with the border at a position of the script. -/
def blend (script : List Edit) (n : Nat) : List String :=
  (script.take n).filterMap Edit.old? ++ (script.drop n).filterMap Edit.new?

/-- Moving the border over lines that are kept changes nothing. -/
theorem blend_eq {script : List Edit} {m n : Nat} (hle : m ≤ n)
    (h : ∀ i, m ≤ i → i < n → ¬ ChangeAt script i) : blend script m = blend script n := by
  have hkept : ∀ e ∈ (script.take n).drop m, e.isChange = false := by
    intro e he
    obtain ⟨k, hk⟩ := List.mem_iff_getElem?.mp he
    rw [List.getElem?_drop, List.getElem?_take] at hk
    obtain ⟨hlt, hk⟩ := Option.ite_none_right_eq_some.mp hk
    cases hchange : e.isChange with
    | false => rfl
    | true => exact absurd ⟨e, hk, hchange⟩ (h (m + k) (Nat.le_add_right _ _) hlt)
  rw [blend, blend, ← take_append_drop_take script hle, ← drop_take_append_drop script hle,
    List.filterMap_append, List.filterMap_append, filterMap_eq_of_kept hkept, List.append_assoc]

/-- A hunk moves the border from its end to its beginning. -/
theorem apply_blend (script : List Edit) {s : Span} (h : s.start ≤ s.stop) :
    (Hunk.ofSpan script s).apply (blend script s.stop) = blend script s.start := by
  have hold := congrArg (List.filterMap Edit.old?) (take_append_drop_take script h)
  have hnew := congrArg (List.filterMap Edit.new?) (drop_take_append_drop script h)
  rw [List.filterMap_append] at hold hnew
  rw [Hunk.apply, Hunk.oldStart_ofSpan, blend, blend, ← hold, ← hnew]
  have hlength : ((script.take s.start).filterMap Edit.old?).length +
      (Hunk.ofSpan script s).oldLength = ((script.take s.start).filterMap Edit.old? ++
        ((script.take s.stop).drop s.start).filterMap Edit.old?).length :=
    List.length_append.symm
  rw [hlength, List.drop_left, List.append_assoc, List.append_assoc, List.take_left]
  rfl

/-- Hunks that lie apart and hold every change behind a border move it back there. -/
theorem patch_ofSpans (script : List Edit) {spans : List Span} {n : Nat}
    (hlength : n ≤ script.length)
    (hapart : spans.Pairwise fun s s' => s.stop < s'.start)
    (hspans : ∀ s ∈ spans, n ≤ s.start ∧ s.start ≤ s.stop ∧ s.stop ≤ script.length)
    (hcovers : ∀ i, n ≤ i → ChangeAt script i → ∃ s ∈ spans, s.start ≤ i ∧ i < s.stop) :
    patch (spans.map (Hunk.ofSpan script)) (script.filterMap Edit.old?) = blend script n := by
  induction spans generalizing n with
  | nil =>
      have hblend : blend script script.length = script.filterMap Edit.old? := by
        rw [blend, List.take_length, List.drop_length, List.filterMap_nil, List.append_nil]
      rw [List.map_nil, patch, List.foldr_nil, ← hblend]
      refine (blend_eq hlength fun i hi _ hchange => ?_).symm
      obtain ⟨s, hs, -⟩ := hcovers i hi hchange
      exact absurd hs List.not_mem_nil
  | cons s spans ih =>
      obtain ⟨hstart, hle, hstop⟩ := hspans s List.mem_cons_self
      have hbehind : ∀ s' ∈ spans, s.stop < s'.start := fun s' hs' =>
        List.rel_of_pairwise_cons hapart hs'
      -- behind the first stretch every change is in one of the others
      have hrest : patch (spans.map (Hunk.ofSpan script)) (script.filterMap Edit.old?) =
          blend script s.stop := by
        refine ih hstop hapart.of_cons (fun s' hs' => ?_) (fun i hi hchange => ?_)
        · obtain ⟨-, hle', hstop'⟩ := hspans s' (List.mem_cons_of_mem s hs')
          exact ⟨Nat.le_of_lt (hbehind s' hs'), hle', hstop'⟩
        · obtain ⟨s', hs', hin⟩ := hcovers i (by omega) hchange
          rcases List.mem_cons.mp hs' with rfl | hs'
          · omega
          · exact ⟨s', hs', hin⟩
      have hfirst : blend script n = blend script s.start := by
        refine blend_eq hstart fun i hi hlt hchange => ?_
        obtain ⟨s', hs', hin⟩ := hcovers i hi hchange
        rcases List.mem_cons.mp hs' with rfl | hs'
        · omega
        · have := hbehind s' hs'
          omega
      rw [hfirst, ← apply_blend script hle, ← hrest]
      rfl

/-! ## Texts with the same lines -/

theorem commonLength_self (lines : List String) : commonLength lines lines = lines.length := by
  induction lines with
  | nil => rfl
  | cons a rest ih => rw [commonLength, if_pos (beq_self_eq_true a), ih, List.length_cons]

/-- Between a list and itself nothing changes. -/
theorem edits_self (lines : List String) : edits lines lines = lines.map .keep := by
  rw [edits_eq, commonLength_self, List.take_length]
  simp [between, behind, middleEdits, Script.best_nil_left]

/-- A script without changes leads to the same lines. -/
theorem spans_eq_nil_iff (old new : List String) : spans (edits old new) = [] ↔ old = new := by
  obtain ⟨changed, hmem, h⟩ := surrounds_spans (edits old new)
  have hleads := leads_edits old new
  constructor
  · intro hnil
    have hkept : ∀ e ∈ edits old new, e.isChange = false := by
      intro e he
      obtain ⟨i, hi⟩ := List.mem_iff_getElem?.mp he
      cases hchange : e.isChange with
      | false => rfl
      | true =>
          obtain ⟨s, hs, -⟩ := h.covers i ((hmem i).mpr ⟨e, hi, hchange⟩)
          rw [hnil] at hs
          exact absurd hs List.not_mem_nil
    have hsame := filterMap_eq_of_kept hkept
    rwa [hleads.old_eq, hleads.new_eq] at hsame
  · rintro rfl
    rw [List.eq_nil_iff_forall_not_mem]
    intro s hs
    obtain ⟨first, hfirst, -⟩ := h.ends s hs
    obtain ⟨e, he, hchange⟩ := (hmem first).mp hfirst
    rw [edits_self, List.getElem?_map, Option.map_eq_some_iff] at he
    obtain ⟨line, -, rfl⟩ := he
    exact absurd hchange (by simp [Edit.isChange])

/-! ## The diff of two texts -/

/-- What a diff shows: the path and the hunks, if there are any. -/
theorem unified_cases (path old new : String) :
    (hunks (Text.lines old) (Text.lines new) = [] ∧ unified path old new = "") ∨
    (hunks (Text.lines old) (Text.lines new) ≠ [] ∧
      unified path old new = "--- a/" ++ path ++ "\n+++ b/" ++ path ++ "\n" ++
        String.join ((hunks (Text.lines old) (Text.lines new)).map Hunk.text)) := by
  unfold unified
  split
  · next h => exact Or.inl ⟨h, rfl⟩
  · next h => exact Or.inr ⟨h, rfl⟩

/-- **A unified diff can be applied.** It is empty exactly if both texts have the same lines.
    Otherwise it shows hunks of the edit script that lie apart in increasing order and hold every
    change. The header of each hunk is right about the lines of both texts, no hunk shows more
    context than it should, and the hunks turn the lines of the old text into those of the new
    one. -/
theorem unified_applies (path old new : String) :
    let O := Text.lines old
    let M := Text.lines new
    let script := edits O M
    (unified path old new = "" ↔ O = M) ∧
    (O ≠ M →
      unified path old new = "--- a/" ++ path ++ "\n+++ b/" ++ path ++ "\n" ++
        String.join ((hunks O M).map Hunk.text) ∧
      hunks O M = (spans script).map (Hunk.ofSpan script) ∧
      (∀ s ∈ spans script, s.start < s.stop ∧ s.stop ≤ script.length) ∧
      (spans script).Pairwise (fun s s' => s.stop < s'.start) ∧
      (∀ i e, script[i]? = some e → e.isChange = true →
        ∃ s ∈ spans script, s.start ≤ i ∧ i < s.stop) ∧
      (∀ h ∈ hunks O M, h.Describes O M h.oldStart h.oldLength h.newStart h.newLength) ∧
      (∀ h ∈ hunks O M, h.Tight) ∧
      patch (hunks O M) O = M) := by
  intro O M script
  have hleads : Leads O M script := leads_edits O M
  obtain ⟨changed, hmem, h⟩ := surrounds_spans script
  have hnil : hunks O M = [] ↔ O = M := by
    rw [← spans_eq_nil_iff, hunks, List.map_eq_nil_iff]
  have hbounds : ∀ s ∈ spans script, s.start < s.stop ∧ s.stop ≤ script.length := by
    intro s hs
    obtain ⟨first, -, last, hlast, hle, hstart, hstop⟩ := h.ends s hs
    obtain ⟨e, he, -⟩ := (hmem last).mp hlast
    have := (List.getElem?_eq_some_iff.mp he).1
    omega
  constructor
  · rcases unified_cases path old new with ⟨hempty, htext⟩ | ⟨hsome, htext⟩
    · exact iff_of_true htext (hnil.mp hempty)
    · refine iff_of_false ?_ (fun heq => hsome (hnil.mpr heq))
      rw [htext]
      intro habs
      have := congrArg String.length habs
      simp at this
  · intro hne
    refine ⟨?_, rfl, hbounds, h.apart, ?_, ?_, ?_, ?_⟩
    · rcases unified_cases path old new with ⟨hempty, -⟩ | ⟨-, htext⟩
      · exact absurd (hnil.mp hempty) hne
      · exact htext
    · intro i e he hchange
      exact h.covers i ((hmem i).mpr ⟨e, he, hchange⟩)
    · intro hunk hhunk
      obtain ⟨s, hs, rfl⟩ := List.mem_map.mp hhunk
      exact Hunk.describes_ofSpan hleads (Nat.le_of_lt (hbounds s hs).1)
    · intro hunk hhunk
      obtain ⟨s, hs, rfl⟩ := List.mem_map.mp hhunk
      exact Hunk.tight_ofSpan hmem h hs
    · have hpatch := patch_ofSpans script (Nat.zero_le _) h.apart
        (fun s hs => ⟨Nat.zero_le _, Nat.le_of_lt (hbounds s hs).1, (hbounds s hs).2⟩)
        (fun i _ hi => h.covers i ((hmem i).mpr hi))
      rw [hleads.old_eq, blend, List.take_zero, List.drop_zero, hleads.new_eq] at hpatch
      exact hpatch

/-- A line changes at the beginning and one is removed at the end. The seven lines that are kept
    between them are one too many for a single hunk. -/
theorem unified_applies_both_ends :
    let old := "a\n1\n2\n3\n4\n5\n6\n7\nb\n"
    let new := "x\n1\n2\n3\n4\n5\n6\n7\n"
    Text.lines old ≠ Text.lines new ∧
    unified "d.json" old new = "--- a/d.json\n+++ b/d.json\n" ++
      "@@ -1,4 +1,4 @@\n-a\n+x\n 1\n 2\n 3\n" ++ "@@ -6,4 +6,3 @@\n 5\n 6\n 7\n-b\n" ∧
    (∀ h ∈ hunks (Text.lines old) (Text.lines new), h.Tight) ∧
    patch (hunks (Text.lines old) (Text.lines new)) (Text.lines old) = Text.lines new := by
  intro old new
  have hne : Text.lines old ≠ Text.lines new := by decide +revert +kernel
  have htext : unified "d.json" old new = "--- a/d.json\n+++ b/d.json\n" ++
      "@@ -1,4 +1,4 @@\n-a\n+x\n 1\n 2\n 3\n" ++ "@@ -6,4 +6,3 @@\n 5\n 6\n 7\n-b\n" := by
    decide +revert +kernel
  obtain ⟨-, -, -, -, -, -, htight, hpatch⟩ := (unified_applies "d.json" old new).2 hne
  exact ⟨hne, htext, htight, hpatch⟩

end BoardLint.Diff
