import LookingGlass.Tool.Lookup

/-
  This file is the lookup tool as a program. It reads the file
  of settings that the command line names, and prints what
  comes of running the tool.

  There is no network here: every request to the collector
  fails, so that only what needs no directory succeeds.
-/

namespace LookingGlass

/- A collector that cannot be reached. -/
def unreachable : Collector.Service :=
  { reply := fun _ => .failed "All connection attempts failed"
    clock := { now := 0, year := Cookie.Date.firstYear } }

/-
  A tree with one file, if that can be read; all other places
  are directories.
-/
def treeOf
    (path : String) : IO Tool.File.Tree := do
  let whole := Tool.File.trail path
  try
    let text ← IO.FS.readFile path
    return fun trail =>
      some (if trail = whole then .text text else .directory)
  catch _ =>
    return fun trail =>
      if trail = whole then none else some .directory

end LookingGlass

/- Runs the lookup tool and gives its status. -/
def main
    (texts : List String) : IO UInt32 := do
  let files : LookingGlass.Tool.File.Tree ←
    match LookingGlass.Tool.configPath? texts with
    | none => pure (fun _ => none)
    | some path => LookingGlass.treeOf path
  let world : LookingGlass.Tool.World :=
    { files, collector := LookingGlass.unreachable }
  let outcome := LookingGlass.Tool.run world texts
  IO.print outcome.report.output
  IO.eprint outcome.report.errors
  match outcome.fault with
  | none => return outcome.report.status.toUInt32
  | some fault =>
    IO.eprintln fault.message
    return 1
