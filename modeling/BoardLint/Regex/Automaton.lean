import BoardLint.Regex.Pattern
import BoardLint.Regex.Utf8
import Std.Data.TreeMap

set_option autoImplicit false

/-! # The size of automata

A pattern is searched for with two automata over bytes: one that reads a text forwards and notes
where groups begin and end, and one that reads it backwards. Both are built from parts for the parts
of the pattern. A state takes 32 bytes, a state with several transitions eight more for each, and a
state with several successors four more for each. A pattern is refused when one of its automata
takes more than ten mebibytes, so only the size is computed here and not the automaton. -/

namespace BoardLint.Regex

open Unicode (CodeSet)

/-! ## Counting -/

/-- How much of an automaton has been built. -/
structure Extent where
  /-- The number of states. -/
  states : Nat
  /-- What the states take in bytes. -/
  bytes : Nat
deriving Repr

/-- The largest automaton in bytes. -/
def maxBytes : Nat := 10 * Nat.pow 2 20

/-- The construction of a part of an automaton. It fails when the automaton becomes too large. -/
abbrev Build (α : Type) := StateT Extent Option α

namespace Build

/-- Takes up bytes. -/
def take (bytes : Nat) : Build Unit := do
  let e ← get
  if e.bytes + bytes > maxBytes then failure else set { e with bytes := e.bytes + bytes }

/-- Adds a state that takes some bytes beyond the usual ones, and returns its number. -/
def add (extra : Nat) : Build Nat := do
  take (32 + extra)
  let e ← get
  set { e with states := e.states + 1 }
  pure e.states

/-- Adds a state with a number of transitions. -/
def addSparse (transitions : Nat) : Build Nat := add (8 * transitions)

/-- Connects the last state of a part with a successor. Only a state with several successors takes
    more bytes for it. -/
def connect (isUnion : Bool) : Build Unit := if isUnion then take 4 else pure ()

end Build

/-- A part of an automaton: whether its last state has several successors. -/
abbrev PartEnd := Bool

/-! ## Remembered states

While the automaton of a set is built, states that were built before are looked up by what follows
them. The memory has a fixed number of places; a state falls on one of them by a hash of what
follows it, and replaces the state that was there. -/

/-- The place of a list of numbers in a memory of a size. -/
def place (size : Nat) (key : List Nat) : Nat :=
  let h := key.foldl (fun h n => (h ^^^ n.toUInt64) * 1099511628211) (14695981039346656037 : UInt64)
  h.toNat % size

/-- States that were built before, each with what it was built from. -/
abbrev Memory := Std.TreeMap Nat (List Nat × Nat)

namespace Memory

/-- A state that was built from a list of numbers before. -/
def find? (m : Memory) (place : Nat) (key : List Nat) : Option Nat :=
  match m[place]? with
  | some (k, state) => if k == key then some state else none
  | none => none

end Memory

/-! ## Sets of ASCII -/

/-- A set of ASCII characters: a state with a transition for every range, and the state after it. -/
def buildAscii (s : CodeSet) : Build PartEnd := do
  let _ ← Build.add 0
  let _ ← Build.addSparse s.ranges.length
  pure false

/-! ## Other sets, forwards

The sequences of a set come in increasing order. A state is complete when the next sequence differs
from the last one before it, and then it is built, unless there is one with the same transitions. -/

/-- A state that is not complete: its transitions as a list of the bytes and the state they lead to,
    in reverse order, and the transition whose successor is not complete. -/
structure Pending where
  transitions : List (List Nat)
  last : Option ByteRange
deriving Repr

namespace Pending

/-- Completes the last transition. -/
def freeze (p : Pending) (next : Nat) : Pending :=
  match p.last with
  | some r => ⟨[r.low, r.high, next] :: p.transitions, none⟩
  | none => p

end Pending

/-- The number of places for states that are built forwards. -/
def forwardPlaces : Nat := 10000

/-- The state for complete transitions, and the memory with it. -/
def buildState (memory : Memory) (p : Pending) : Build (Nat × Memory) := do
  let key := p.transitions.reverse.flatten
  let slot := place forwardPlaces key
  match memory.find? slot key with
  | some state => pure (state, memory)
  | none =>
    let state ← Build.addSparse p.transitions.length
    pure (state, memory.insert slot (key, state))

/-- Builds the states beyond the first `depth + 1` ones and completes the last transition of the one
    that is left on top; the states come with the latest first. The latest leads to `next`. -/
def buildBeyond (depth : Nat) (memory : Memory) (next : Nat) :
    List Pending → Build (List Pending × Memory)
  | [] => pure ([], memory)
  | p :: rest =>
    if depth < rest.length then do
      let (state, memory) ← buildState memory (p.freeze next)
      buildBeyond depth memory state rest
    else pure (p.freeze next :: rest, memory)

/-- How many ranges a sequence has in common with the states that are not complete, the first one
    first. -/
def shared : List Pending → List ByteRange → Nat
  | p :: ps, r :: rs => if p.last == some r then shared ps rs + 1 else 0
  | _, _ => 0

/-- Adds a sequence to the states that are not complete, the latest first. -/
def addSequence (target : Nat) (memory : Memory) (pending : List Pending)
    (ranges : List ByteRange) : Build (List Pending × Memory) := do
  let common := shared pending.reverse ranges
  let (pending, memory) ← buildBeyond common memory target pending
  match pending, ranges.drop common with
  | p :: rest, r :: more =>
    let fresh := more.map fun r => (⟨[], some r⟩ : Pending)
    pure (fresh.reverse ++ { p with last := some r } :: rest, memory)
  | pending, _ => pure (pending, memory)

/-- Adds sequences to the states that are not complete. -/
def addSequences (target : Nat) (memory : Memory) (pending : List Pending) :
    List (List ByteRange) → Build (List Pending × Memory)
  | [] => buildBeyond 0 memory target pending
  | ranges :: rest => do
    let (pending, memory) ← addSequence target memory pending ranges
    addSequences target memory pending rest

/-- A set of characters that is read forwards. -/
def buildForward (s : CodeSet) : Build PartEnd := do
  let target ← Build.add 0
  let (pending, memory) ← addSequences target {} [⟨[], none⟩] (sequences s)
  for p in pending do
    let _ ← buildState memory p
  pure false

/-! ## Other sets, backwards

The sequences share the states with which they end, and a state in front of all has one successor
for every sequence. -/

/-- The number of places for states that are built backwards. -/
def backwardPlaces : Nat := 1000

/-- Builds a sequence that is read backwards and ends in a state. -/
def addSuffix (memory : Memory) (next : Nat) : List ByteRange → Build Memory
  | [] => pure memory
  | r :: rest => do
    let key := [next, r.low, r.high]
    let slot := place backwardPlaces key
    match memory.find? slot key with
    | some state => addSuffix memory state rest
    | none =>
      let state ← Build.add 0
      addSuffix (memory.insert slot (key, state)) state rest

/-- Builds sequences that are read backwards. -/
def addSuffixes (target : Nat) (memory : Memory) : List (List ByteRange) → Build Unit
  | [] => pure ()
  | ranges :: rest => do
    let memory ← addSuffix memory target ranges
    Build.connect true
    addSuffixes target memory rest

/-- A set of characters that is read backwards. -/
def buildBackward (s : CodeSet) : Build PartEnd := do
  let _ ← Build.add 0
  let target ← Build.add 0
  addSuffixes target {} (sequences s)
  pure false

/-! ## Choices between literals

The bytes that literals begin with alike are read by the same states, as long as no literal between
them ends at such a state. -/

/-- The literals that begin with each byte, in the order of the bytes, without that byte. -/
def byFirstByte (words : List (List UInt8)) : List (List (List UInt8)) :=
  let firsts := ((words.filterMap List.head?).map UInt8.toNat).mergeSort.eraseReps
  firsts.map fun b => words.filterMap fun
    | c :: rest => if c.toNat == b then some rest else none
    | [] => none

/-- Cuts the literals of a state at those that end there, in reverse order before `done`. One that
    ends where no literal went on yet is a cut only once. -/
def chunks (done : List (List (List UInt8))) (current : List (List UInt8)) :
    List (List UInt8) → List (List (List UInt8))
  | [] => (current.reverse :: done).reverse
  | [] :: rest =>
    if current.isEmpty && !done.isEmpty && done.all (·.isEmpty) then chunks done current rest
    else chunks (current.reverse :: done) [] rest
  | word :: rest => chunks done (word :: current) rest

/-- The states for literals that are read from one state on. The number bounds their length. -/
def buildWords : Nat → List (List UInt8) → Build Unit
  | 0, _ => pure ()
  | fuel + 1, words => do
    let parts := chunks [] [] words
    for part in parts do
      let groups := byFirstByte part
      for group in groups do
        if group.any fun w => !w.isEmpty then buildWords fuel group
      match groups.length with
      | 0 => pure ()
      | 1 => let _ ← Build.add 0
      | n => let _ ← Build.addSparse n
    let _ ← Build.add (4 * ((parts.filter fun part => !part.isEmpty).length + parts.length - 1))

/-- A choice between literals. -/
def buildLiterals (words : List (List UInt8)) : Build PartEnd := do
  let _ ← Build.add 0
  buildWords ((words.map List.length).foldl max 0 + 1) words
  pure false

/-! ## Rows and repetitions -/

/-- Parts in a row; no part is a state of its own. -/
def buildRow : List (Build PartEnd) → Build PartEnd
  | [] => do
    let _ ← Build.add 0
    pure false
  | [part] => part
  | part :: rest => do
    Build.connect (← part)
    buildRow rest

/-- A part a number of times in a row. -/
def buildCopies (part : Build PartEnd) : Nat → Build PartEnd
  | 0 => do
    let _ ← Build.add 0
    pure false
  | 1 => part
  | n + 2 => do
    Build.connect (← part)
    buildCopies part (n + 1)

/-- A part that may be left out, a number of times; each one may be followed by the end. -/
def buildOptional (part : Build PartEnd) (before : PartEnd) : Nat → Build PartEnd
  | 0 => do
    Build.connect before
    pure false
  | n + 1 => do
    let _ ← Build.add 8
    let last ← part
    Build.connect before
    buildOptional part last n

/-- A part that is repeated. What may match the empty text is repeated behind a choice of its own.
    -/
def buildTimes (part : Build PartEnd) (isNeverEmpty : Bool) (least : Nat) :
    Option Nat → Build PartEnd
  | some most =>
    if least == 0 && most == 1 then do
      let _ ← Build.add 8
      Build.connect (← part)
      let _ ← Build.add 0
      pure false
    else if least == most then buildCopies part least
    else do
      let last ← buildCopies part least
      let _ ← Build.add 0
      buildOptional part last (most - least)
  | none =>
    if least == 0 then
      if isNeverEmpty then do
        let _ ← Build.add 4
        Build.connect (← part)
        pure true
      else do
        let last ← part
        let _ ← Build.add 8
        Build.connect last
        let _ ← Build.add 8
        let _ ← Build.add 0
        pure false
    else do
      let last ← buildCopies part least
      let _ ← Build.add 4
      Build.connect last
      pure true

/-- Several parts that lead to one state. -/
def buildBranches (parts : List (Build PartEnd)) : Build Unit :=
  parts.forM fun part => do Build.connect (← part)

/-- A choice between parts. The states of the choice come behind those of its first two parts. -/
def buildChoice (parts : List (Build PartEnd)) : Build PartEnd := do
  buildBranches (parts.take 2)
  let _ ← Build.add (4 * parts.length)
  let _ ← Build.add 0
  buildBranches (parts.drop 2)
  pure false

/-! ## Patterns -/

namespace Pattern

/-- The bytes of a literal. -/
def bytes? : Pattern → Option (List UInt8)
  | .literal bytes => some bytes
  | _ => none

mutual

/-- The part of an automaton for a pattern, forwards or backwards. -/
def build (backwards : Bool) : Pattern → Build PartEnd
  | .empty => do
    let _ ← Build.add 0
    pure false
  | .literal bytes => buildCopies (do let _ ← Build.add 0; pure false) bytes.length
  | .chars wide s =>
    if !wide || s.bounds.all (· ≤ 0x80) then buildAscii s
    else if backwards then buildBackward s
    else buildForward s
  | .look _ => do
    let _ ← Build.add 0
    pure false
  | .times least most _ p =>
    buildTimes (build backwards p) (p.minLength.any (· > 0)) least most
  | .group _ p =>
    if backwards then build backwards p
    else do
      let _ ← Build.add 0
      Build.connect (← build backwards p)
      let _ ← Build.add 0
      pure false
  | .seq parts =>
    let parts := buildAll backwards parts
    buildRow (if backwards then parts.reverse else parts)
  | .alt branches =>
    match branches.mapM bytes? with
    | some words => buildLiterals (if backwards then words.map List.reverse else words)
    | none => buildChoice (buildAll backwards branches)

/-- The parts of an automaton for several patterns. -/
def buildAll (backwards : Bool) : List Pattern → List (Build PartEnd)
  | [] => []
  | p :: rest => build backwards p :: buildAll backwards rest

end

mutual

/-- Whether a match can begin at the beginning of a text alone, or with `atEnd` end at its end
    alone. -/
def isAnchored (atEnd : Bool) : Pattern → Bool
  | .look l => l == if atEnd then .textEnd else .textStart
  | .times least _ _ p => least > 0 && p.isAnchored atEnd
  | .group _ p => p.isAnchored atEnd
  | .seq parts => if atEnd then isRowAnchoredAtEnd parts else isRowAnchored parts
  | .alt branches => areAnchored atEnd branches
  | _ => false

/-- Whether one of the parts of a row that come before any text is anchored. -/
def isRowAnchored : List Pattern → Bool
  | [] => false
  | p :: rest => p.isAnchored false || (p.maxLength == some 0 && isRowAnchored rest)

/-- Whether one of the parts of a row that come after all text is anchored. -/
def isRowAnchoredAtEnd : List Pattern → Bool
  | [] => false
  | p :: rest =>
    isRowAnchoredAtEnd rest || (maxLengthOfRow rest == some 0 && p.isAnchored true)

/-- Whether all patterns of a list are anchored. -/
def areAnchored (atEnd : Bool) : List Pattern → Bool
  | [] => true
  | p :: rest => p.isAnchored atEnd && areAnchored atEnd rest

end

/-- The whole automaton: what may stand in front of a match, the pattern as the group of all, and
    the state of a match. -/
def automaton (backwards : Bool) (p : Pattern) : Build Unit := do
  if p.isAnchored backwards then
    let _ ← Build.add 0
  else
    let _ ← Build.add 8
    let _ ← buildAscii (.range 0 255)
  let last ← build backwards (.group 0 p)
  let _ ← Build.add 0
  Build.connect last

/-- Whether an automaton is not too large. -/
def fitsInto (backwards : Bool) (p : Pattern) : Bool :=
  ((automaton backwards p).run ⟨0, 0⟩).isSome

/-- Whether both automata of a pattern are not too large. -/
def fits (p : Pattern) : Bool := p.fitsInto false && p.fitsInto true

end Pattern

end BoardLint.Regex
