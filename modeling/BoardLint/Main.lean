import BoardLint.Command.Run

set_option autoImplicit false

/-! # The program

Reads the files that the command can see, runs it, prints what it prints and writes the files that
it changed. -/

namespace BoardLint

/-- The location of a path from the root. -/
def locationOf (path : String) : List String :=
  (Path.pieces path).filter fun piece => !piece.isEmpty

/-- What a file holds. -/
def contentOf (bytes : ByteArray) : FileContent :=
  match String.fromUTF8? bytes with
  | some text => .text text
  | none => .binary

/-- The tree with what stands at a path, directories at most `depth` deep. What cannot be read is
    left out. -/
def snapshot (depth : Nat) (path : String) (t : FileTree) : IO FileTree := do
  match depth with
  | 0 => return t
  | depth + 1 =>
    try
      let real ← IO.FS.realPath path
      let place := locationOf real.toString
      if ← real.isDir then
        let mut t := t.addDirectory place
        for entry in ← real.readDir do
          t ← snapshot depth entry.path.toString t
        return t
      else
        return t.addFile place (contentOf (← IO.FS.readBinFile real))
    catch _ => return t

/-- The part of an argument in front of the first pattern in it. -/
def fixedPart (arg : String) : String :=
  let value := if arg.toList.head? == some '-' then
      String.ofList ((Text.cutAt '=' arg.toList).2.getD [])
    else arg
  let isFixed (piece : String) : Bool := !piece.toList.any fun c => "*?[".toList.contains c
  "/".intercalate ((Path.pieces value).takeWhile isFixed)

/-- The files that a command with the given arguments can see. -/
def visibleTree (args : List String) : IO FileTree := do
  let working := (← IO.currentDir).toString
  let home := (← IO.getEnv "HOME").map locationOf
  let mut t ← snapshot 64 working (FileTree.start (locationOf working) home)
  for path in Settings.defaultPaths t do
    t ← snapshot 1 path t
  for arg in args do
    let path := fixedPart arg
    unless path.isEmpty do
      t ← snapshot 64 path t
  return t

/-- Writes the files that differ between two trees. -/
def writeChanges (before after : FileTree) : IO Unit := do
  for (key, content) in after.files.entries do
    match content with
    | .text s =>
      unless before.files.get? key == some content do
        IO.FS.writeFile ("/" ++ key) s
    | .binary => pure ()

end BoardLint

/-- Runs the command line. -/
def main (args : List String) : IO UInt32 := do
  let t ← BoardLint.visibleTree args
  let out := BoardLint.Command.run t (← (← IO.getStdout).isTty) args
  IO.print out.stdout
  IO.eprint out.stderr
  BoardLint.writeChanges t out.tree
  return out.status.toUInt32
