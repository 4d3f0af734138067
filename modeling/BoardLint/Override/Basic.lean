import BoardLint.Finding.Basic
import BoardLint.KeyMap

set_option autoImplicit false

/-! # Overrides

Which findings are excluded, and which become warnings. An override of a rule lists the occurrences
that it is about; one without a list is about every occurrence. -/

namespace BoardLint

/-- The position of a target as an override gives it: a number, or a text that may be one. -/
inductive TargetIndex where
  | index (value : UInt64)
  | text (value : String)
deriving DecidableEq, Repr

/-- The position, if it is a number. -/
def TargetIndex.number? : TargetIndex → Option UInt64
  | .index n => some n
  | .text s => Text.uint64? (Text.trim s.toList)

/-- An occurrence. A field that is set has to agree with the finding; one that is not set agrees
    with any. -/
structure Occurrence where
  reason : Option String
  dashboard : Option String
  panel : Option String
  target : Option TargetIndex
  template : Option String
deriving DecidableEq, Repr, Inhabited

/-- Whether a finding is an occurrence. A set field does not agree with a part that the finding
    lacks. -/
def Occurrence.covers (o : Occurrence) (f : Finding) : Bool :=
  (o.dashboard.all fun title => title == f.dashboard.title) &&
    (o.panel.all fun title => f.panel.any fun p => p.title == title) &&
    ((o.target.bind TargetIndex.number?).all fun n => f.target == some n.toNat) &&
    (o.template.all fun name => f.template.any fun t => t.name == name)

/-- The occurrences of a rule that an override is about. -/
structure Occurrences where
  reason : Option String
  entries : List Occurrence
deriving DecidableEq, Repr, Inhabited

/-- Whether a finding is among the occurrences; without entries every finding is. -/
def Occurrences.covers (o : Occurrences) (f : Finding) : Bool :=
  o.entries.isEmpty || o.entries.any fun e => e.covers f

/-- Overrides by rule. A rule without occurrences stands for all of them. -/
abbrev Overrides := KeyMap (Option Occurrences)

namespace Overrides

/-- Whether an override is about a finding. -/
def covers (o : Overrides) (f : Finding) : Bool :=
  match o.get? f.rule with
  | none => false
  | some none => true
  | some (some occurrences) => occurrences.covers f

/-- Two overrides of the same rule in one. Lists are joined; if either is about every occurrence, so
    is the result. The first reason counts. -/
def join (first second : Option Occurrences) : Option Occurrences :=
  let reason := (first.bind (·.reason)).or (second.bind (·.reason))
  let entries (o : Option Occurrences) : List Occurrence := (o.map (·.entries)).getD []
  if (entries first).isEmpty || (entries second).isEmpty then
    reason.map fun r => ⟨some r, []⟩
  else some ⟨reason, entries first ++ entries second⟩

/-- The overrides of both maps. -/
def merge (base other : Overrides) : Overrides :=
  other.entries.foldl
    (fun m (rule, extra) => m.update rule fun
      | none => extra
      | some current => join current extra)
    base

/-- The overrides with one more occurrence of a rule. -/
def add (o : Overrides) (rule : String) (entry : Occurrence) : Overrides :=
  o.update rule fun current =>
    let known := (current.bind id).getD ⟨none, []⟩
    some { known with entries := known.entries ++ [entry] }

end Overrides

/-- The exclusions and the warnings of a directory or a project. -/
structure OverrideFile where
  exclusions : Overrides
  warnings : Overrides
deriving DecidableEq, Repr, Inhabited

namespace OverrideFile

/-- No overrides. -/
def empty : OverrideFile := ⟨.empty, .empty⟩

/-- Whether there are no overrides. -/
def isEmpty (file : OverrideFile) : Bool := file.exclusions.isEmpty && file.warnings.isEmpty

/-- The overrides of both files. -/
def merge (base other : OverrideFile) : OverrideFile :=
  ⟨Overrides.merge base.exclusions other.exclusions, Overrides.merge base.warnings other.warnings⟩

/-- The file with one more exclusion. -/
def addExclusion (file : OverrideFile) (rule : String) (entry : Occurrence) : OverrideFile :=
  { file with exclusions := Overrides.add file.exclusions rule entry }

/-- The file with one more warning. -/
def addWarning (file : OverrideFile) (rule : String) (entry : Occurrence) : OverrideFile :=
  { file with warnings := Overrides.add file.warnings rule entry }

end OverrideFile

end BoardLint
