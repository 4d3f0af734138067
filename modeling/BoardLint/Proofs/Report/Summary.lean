import BoardLint.Proofs.Json.Number
import BoardLint.Report.Basic

set_option autoImplicit false

/-! # Reading a summary

The summary line of a report gives counts in words, leaves out those that are zero and may colour
the rest. `Report.statedCount` reads a count back from the line, knowing no more than the word that
follows it. What it reads is the number of findings of that severity
(`Report.statedCount_summaryLine`). -/

namespace BoardLint

namespace Report

/-- The number that a text begins with, if a word follows it. -/
def numberBefore? (word text : List Char) : Option Nat :=
  let digits := text.takeWhile Char.isDigit
  if !digits.isEmpty && (Text.after? (' ' :: word) (text.dropWhile Char.isDigit)).isSome then
    some (Text.digitsValue digits)
  else none

/-- The first number in a text that a word follows. -/
def stated? (word : List Char) : List Char → Option Nat
  | [] => none
  | c :: text => (numberBefore? word (c :: text)).or (stated? word text)

/-- The count that a line gives with a word, zero when it has none. -/
def statedCount (word line : String) : Nat := (stated? word.toList line.toList).getD 0

/-! ## Reading parts of a text -/

section Reading

variable {word : List Char}

theorem takeWhile_append_cons {c : Char} (hc : c.isDigit = false) (front rest : List Char) :
    (front ++ c :: rest).takeWhile Char.isDigit = front.takeWhile Char.isDigit ∧
      (front ++ c :: rest).dropWhile Char.isDigit = front.dropWhile Char.isDigit ++ c :: rest := by
  induction front with
  | nil => simp [hc]
  | cons a front ih =>
      by_cases ha : a.isDigit = true
      · simp [ha, ih]
      · simp [ha]

theorem isSome_after?_append {front : List Char} {c : Char} (hc : c ∉ front)
    (text rest : List Char) :
    (Text.after? front (text ++ c :: rest)).isSome = (Text.after? front text).isSome := by
  induction front generalizing text with
  | nil => rfl
  | cons a front ih =>
      obtain ⟨hne, hc⟩ := List.ne_and_not_mem_of_not_mem_cons hc
      cases text with
      | nil => simp [Text.after?, Ne.symm hne]
      | cons b text =>
          simp only [List.cons_append, Text.after?]
          split
          · exact ih hc text
          · rfl

theorem stated?_cons_of_not_digit {c : Char} (hc : c.isDigit = false) (text : List Char) :
    stated? word (c :: text) = stated? word text := by
  simp [stated?, numberBefore?, hc]

theorem stated?_of_no_digits {text : List Char} (h : text.any Char.isDigit = false) :
    stated? word text = none := by
  induction text with
  | nil => rfl
  | cons c text ih =>
      rw [List.any_cons, Bool.or_eq_false_iff] at h
      rw [stated?_cons_of_not_digit h.1, ih h.2]

/-- A character that is in no number and not in the word divides a text into two that are read one
    after the other. -/
theorem stated?_append_cons {c : Char} (hc : c.isDigit = false) (hword : c ∉ ' ' :: word)
    (front rest : List Char) :
    stated? word (front ++ c :: rest) = (stated? word front).or (stated? word rest) := by
  induction front with
  | nil => exact stated?_cons_of_not_digit hc rest
  | cons a front ih =>
      have hnumber : numberBefore? word (a :: front ++ c :: rest) =
          numberBefore? word (a :: front) := by
        obtain ⟨htake, hdrop⟩ := takeWhile_append_cons hc (a :: front) rest
        simp only [numberBefore?, htake, hdrop, isSome_after?_append hword]
      rw [List.cons_append] at hnumber
      rw [List.cons_append, stated?, stated?, hnumber, ih, Option.or_assoc]

theorem numberBefore?_digits (word : List Char) {digits : List Char}
    (hdigits : ∀ c ∈ digits, c.isDigit = true) (hne : digits ≠ []) (tail : List Char) :
    numberBefore? word (digits ++ ' ' :: tail) =
      if (Text.after? word tail).isSome then some (Text.digitsValue digits) else none := by
  obtain ⟨htake, hdrop⟩ := takeWhile_append_cons (c := ' ') rfl digits tail
  rw [List.takeWhile_eq_self_iff.mpr hdigits] at htake
  rw [List.dropWhile_eq_nil_iff.mpr hdigits, List.nil_append] at hdrop
  have hafter : Text.after? (' ' :: word) (' ' :: tail) = Text.after? word tail := rfl
  simp [numberBefore?, htake, hdrop, hafter, hne]

/-- A number is read if the word follows it, and passed over otherwise. -/
theorem stated?_toDigits (n : Nat) {tail : List Char} (htail : tail.any Char.isDigit = false) :
    stated? word (Nat.toDigits 10 n ++ ' ' :: tail) =
      if (Text.after? word tail).isSome then some n else none := by
  by_cases hword : (Text.after? word tail).isSome = true
  · have hnumber := numberBefore?_digits word
      (Json.Number.isDigit_of_mem_toDigits (n := n)) Nat.toDigits_ne_nil tail
    rw [if_pos hword, Json.Number.digitsValue_toDigits] at hnumber
    rw [if_pos hword]
    cases hdigits : Nat.toDigits 10 n with
    | nil => exact absurd hdigits Nat.toDigits_ne_nil
    | cons d digits =>
        rw [hdigits, List.cons_append] at hnumber
        rw [List.cons_append, stated?, hnumber, Option.some_or]
  · -- no end of the number is followed by the word either
    have hend : ∀ digits : List Char, (∀ c ∈ digits, c.isDigit = true) →
        stated? word (digits ++ ' ' :: tail) = none := by
      intro digits hdigits
      induction digits with
      | nil => rw [List.nil_append, stated?_cons_of_not_digit rfl, stated?_of_no_digits htail]
      | cons d digits ih =>
          have hnumber := numberBefore?_digits word hdigits (List.cons_ne_nil _ _) tail
          rw [if_neg hword, List.cons_append] at hnumber
          rw [List.cons_append, stated?, hnumber, Option.none_or]
          exact ih (List.forall_mem_cons.mp hdigits).2
    rw [if_neg hword, hend _ Json.Number.isDigit_of_mem_toDigits]

end Reading

/-! ## Styles -/

theorem reopen_of_not_mem {text : List Char} (h : '\x1b' ∉ text) (opening : List Char)
    (fuel : Nat) : Style.reopen opening fuel text = text := by
  induction fuel generalizing text with
  | zero => rfl
  | succ fuel ih =>
      cases text with
      | nil => rfl
      | cons c text =>
          obtain ⟨hne, hmem⟩ := List.ne_and_not_mem_of_not_mem_cons h
          have hreset : Text.after? Style.reset (c :: text) = none := by
            have hescape : Style.reset = '\x1b' :: "[0m".toList := rfl
            rw [hescape, Text.after?, if_neg (by simpa using hne)]
          simp only [Style.reopen, hreset, ih hmem]

/-- The characters that divide a summary: marks between its parts, and the ends of styles. -/
def dividers : List Char := [':', ',', 'm', '\x1b']

/-- A word without dividers. -/
def IsPlain (word : List Char) : Prop := dividers.all (fun c => !(' ' :: word).contains c) = true

theorem IsPlain.notMem {word : List Char} (h : IsPlain word) {c : Char} (hc : c ∈ dividers) :
    c ∉ ' ' :: word := by
  have hall := List.all_eq_true.mp h c hc
  rwa [Bool.not_eq_true', ← Bool.not_eq_true, List.contains_iff_mem] at hall

/-- Colours make no difference to the numbers in a text. -/
theorem stated?_paint {word : List Char} (hword : IsPlain word) (s : Style) (wanted : Bool)
    {text : String} (htext : '\x1b' ∉ text.toList) :
    stated? word (s.paint wanted text).toList = stated? word text.toList := by
  cases wanted with
  | false => rfl
  | true =>
      have hpaint : (s.paint true text).toList =
          ("\x1b[".toList ++ s.code.toList) ++ 'm' :: (text.toList ++ '\x1b' :: "[0m".toList) := by
        simp only [Style.paint, if_true, String.toList_ofList, reopen_of_not_mem htext]
        simp [Style.opening, Style.reset]
      have hcode : stated? word ("\x1b[".toList ++ s.code.toList) = none := by cases s <;> rfl
      have hreset : stated? word "[0m".toList = none := rfl
      rw [hpaint, stated?_append_cons rfl (hword.notMem (by decide)), hcode,
        stated?_append_cons rfl (hword.notMem (by decide)), hreset, Option.or_none, Option.none_or]

/-! ## The summary line -/

theorem toList_counted (n : Nat) (word : String) : (counted n word).toList =
    Nat.toDigits 10 n ++ ' ' :: (word.toList ++ if n == 1 then [] else ['s']) := by
  unfold counted
  by_cases hn : n = 1 <;> simp [hn]

theorem findSome?_cons_or {α β : Type} (f : α → Option β) (x : α) (xs : List α) :
    (x :: xs).findSome? f = (f x).or (xs.findSome? f) := by
  rw [List.findSome?_cons]
  cases f x <;> rfl

theorem stated?_intercalate {word : List Char} (hword : IsPlain word) (parts : List String) :
    stated? word (", ".intercalate parts).toList =
      parts.findSome? fun p => stated? word p.toList := by
  rw [String.toList_intercalate]
  induction parts with
  | nil => rfl
  | cons p parts ih =>
      cases parts with
      | nil => simp
      | cons q parts =>
          have hcomma : (", ".toList.intercalate ((p :: q :: parts).map String.toList)) =
              p.toList ++ ',' :: ' ' ::
                ", ".toList.intercalate ((q :: parts).map String.toList) := by
            rw [List.map_cons, List.map_cons, List.intercalate_cons_cons]
            simp
          rw [hcomma, stated?_append_cons rfl (hword.notMem (by decide)),
            stated?_cons_of_not_digit rfl, ih, findSome?_cons_or _ p]

/-- A summary line gives with a word what one of its parts gives with it. -/
theorem stated?_summaryLine {word : List Char} (hword : IsPlain word)
    (hdashboard : ∀ ending, Text.after? word ("dashboard".toList ++ ending) = none) (o : Options)
    (fs : Findings) : stated? word (summaryLine o fs).toList =
      (countParts o fs.summary).findSome? fun p => stated? word p.toList := by
  have hline : ∀ text : String,
      stated? word (counted (dashboardCount fs) "dashboard" ++ ": " ++ text).toList =
        stated? word text.toList := by
    intro text
    have hcount : stated? word (counted (dashboardCount fs) "dashboard").toList = none := by
      rw [toList_counted, stated?_toDigits, hdashboard]
      · rfl
      · split <;> rfl
    have hcolon : (counted (dashboardCount fs) "dashboard" ++ ": " ++ text).toList =
        (counted (dashboardCount fs) "dashboard").toList ++ ':' :: ' ' :: text.toList := by
      simp
    rw [hcolon, stated?_append_cons rfl (hword.notMem (by decide)), hcount, Option.none_or,
      stated?_cons_of_not_digit rfl]
  unfold summaryLine
  rw [hline, stated?_intercalate hword]
  split
  · next hempty =>
      rw [List.isEmpty_iff.mp hempty]
      rfl
  · rfl

/-! ## Counts -/

/-- The counts of a summary in the order of its parts. -/
def counts (s : Summary) : List Nat := [s.errors, s.warnings, s.excluded, s.fixed, s.fixable]

/-- What follows the counts of a summary, and the severity of the findings that are counted. The
    last count is of repairs. -/
def labels (one one' : Bool) : List (List Char × Option Severity) :=
  [("error".toList ++ if one then [] else ['s'], some .error),
    ("warning".toList ++ if one' then [] else ['s'], some .warning),
    ("excluded".toList, some .exclude), ("fixed".toList, some .fixed),
    ("fixable with --fix".toList, none)]

/-- What is read with a word where a part of a summary has a count and a label. -/
def reading (word : List Char) (n : Nat) (label : List Char) : Option Nat :=
  if n = 0 then none else if (Text.after? word label).isSome then some n else none

theorem findSome?_part {word : List Char} (hword : IsPlain word) (style : Style) (wanted : Bool)
    {text : String} {n : Nat} {label : List Char}
    (htext : text.toList = Nat.toDigits 10 n ++ ' ' :: label)
    (hdigits : label.any Char.isDigit = false) (hescape : '\x1b' ∉ label) :
    (part n (style.paint wanted text)).findSome? (fun p => stated? word p.toList) =
      reading word n label := by
  have hnone : '\x1b' ∉ text.toList := by
    rw [htext, List.mem_append, List.mem_cons]
    rintro (hdigit | hblank | hlabel)
    · exact absurd (Json.Number.isDigit_of_mem_toDigits _ hdigit) (by decide)
    · exact absurd hblank (by decide)
    · exact hescape hlabel
  have hstated : stated? word (style.paint wanted text).toList =
      if (Text.after? word label).isSome then some n else none := by
    rw [stated?_paint hword style wanted hnone, htext, stated?_toDigits n hdigits]
  unfold part reading
  by_cases hn : n = 0
  · rw [if_pos hn, if_pos (by simpa using hn)]
    rfl
  · rw [if_neg hn, if_neg (by simpa using hn), findSome?_cons_or, hstated]
    exact Option.or_none

theorem findSome?_countParts {word : List Char} (hword : IsPlain word) (o : Options) (s : Summary) :
    (countParts o s).findSome? (fun p => stated? word p.toList) =
      ((counts s).zip (labels (s.errors == 1) (s.warnings == 1))).findSome? fun x =>
        reading word x.1 x.2.1 := by
  have herrors := findSome?_part hword .red o.colored (toList_counted s.errors "error")
    (by split <;> rfl) (by split <;> decide)
  have hwarnings := findSome?_part hword .yellow o.colored (toList_counted s.warnings "warning")
    (by split <;> rfl) (by split <;> decide)
  have hfixed :
      (part s.fixed (Style.green.paint o.colored (toString s.fixed ++ " fixed"))).findSome?
        (fun p => stated? word p.toList) = reading word s.fixed "fixed".toList :=
    findSome?_part hword .green o.colored (by simp) (by decide) (by decide)
  -- the other two have no style
  have hexcluded : (part s.excluded (toString s.excluded ++ " excluded")).findSome?
      (fun p => stated? word p.toList) = reading word s.excluded "excluded".toList :=
    findSome?_part hword .dimmed false (by simp) (by decide) (by decide)
  have hfixable : (part s.fixable (toString s.fixable ++ " fixable with --fix")).findSome?
      (fun p => stated? word p.toList) = reading word s.fixable "fixable with --fix".toList :=
    findSome?_part hword .dimmed false (by simp) (by decide) (by decide)
  simp only [countParts, List.findSome?_append, herrors, hwarnings, hexcluded, hfixed, hfixable,
    counts, labels, List.zip_cons_cons, List.zip_nil_left, findSome?_cons_or, List.findSome?_nil,
    Option.or_none, Option.or_assoc]

/-- How many findings have a severity. -/
def tally (fs : Findings) (s : Severity) : Nat := fs.list.countP fun f => f.severity = s

/-- The words of a summary that count findings of one severity. -/
def tallyWords : List (String × Severity) :=
  [("error", .error), ("warning", .warning), ("excluded", .exclude), ("fixed", .fixed)]

theorem countOf_singleton (fs : Findings) (s : Severity) : fs.countOf [s] = tally fs s := by
  unfold Findings.countOf tally
  congr 1
  funext f
  simp

theorem isSome_after?_label : ∀ one one' : Bool, ∀ x ∈ tallyWords, ∀ y ∈ labels one one',
    (Text.after? x.1.toList y.1).isSome = (y.2 == some x.2) := by decide

theorem isPlain_of_mem_tallyWords : ∀ x ∈ tallyWords, IsPlain x.1.toList := by
  unfold IsPlain
  decide

theorem dashboard_of_mem_tallyWords : ∀ x ∈ tallyWords, ∀ ending,
    Text.after? x.1.toList ("dashboard".toList ++ ending) = none := by
  intro x hx ending
  simp only [tallyWords, List.mem_cons, List.not_mem_nil, or_false] at hx
  rcases hx with rfl | rfl | rfl | rfl <;> rfl

/-- The numbers in a summary line are those of the findings of each severity. -/
theorem statedCount_summaryLine (o : Options) (fs : Findings) {word : String} {s : Severity}
    (h : (word, s) ∈ tallyWords) : statedCount word (summaryLine o fs) = tally fs s := by
  have hplain := isPlain_of_mem_tallyWords _ h
  have hlabel := isSome_after?_label (fs.summary.errors == 1) (fs.summary.warnings == 1) _ h
  simp only [labels, List.forall_mem_cons] at hlabel
  obtain ⟨herror, hwarning, hexcluded, hfixed, hfixable, -⟩ := hlabel
  have hgetD : ∀ n : Nat, (if n = 0 then none else some n).getD 0 = n := by
    intro n
    by_cases hn : n = 0 <;> simp [hn]
  rw [statedCount, stated?_summaryLine hplain (dashboard_of_mem_tallyWords _ h),
    findSome?_countParts hplain]
  simp only [counts, labels, List.zip_cons_cons, List.zip_nil_left, findSome?_cons_or,
    List.findSome?_nil, Option.or_none, reading, herror, hwarning, hexcluded, hfixed, hfixable]
  simp only [tallyWords, List.mem_cons, Prod.mk.injEq, List.not_mem_nil, or_false] at h
  rcases h with ⟨-, rfl⟩ | ⟨-, rfl⟩ | ⟨-, rfl⟩ | ⟨-, rfl⟩ <;>
    simp [hgetD, Findings.summary, countOf_singleton]

example : statedCount "warning" "1 dashboard: \x1b[31m12 errors\x1b[0m, 3 warnings" = 3 ∧
    statedCount "fixed" "1 dashboard: \x1b[31m12 errors\x1b[0m, 4 fixable with --fix" = 0 := by
  decide

end Report

end BoardLint
