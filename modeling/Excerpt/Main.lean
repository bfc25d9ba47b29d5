import Excerpt.Command.Run
import Excerpt.Disk.Change

/-!
The command line. It collects what a run may look at, carries the run out on that, prints what the
run prints and writes what it changes.
-/

namespace Excerpt.Command

/-- The place behind a path that holds no links any more. -/
def placeOf (path : String) : Place := (Route.ofText path.toList).names

/-- What stands at a place when all links are followed. -/
def realPlace? (p : Place) : IO (Option Place) := do
  try
    return some (placeOf (toString (← IO.FS.realPath (String.ofList p.toText))))
  catch _ => return none

/-- Adds a file or a folder to a disk, with the folders that lead to it. -/
def survey (d : Disk) (p : Place) : IO Disk := do
  let d := d.makeFolders [] p.dropLast
  try
    let bytes ← IO.FS.readBinFile (String.ofList p.toText)
    return d.put p (.file ⟨bytes.toList, Disk.plainMode, d.clock, d.clock⟩)
  catch _ => return d.makeFolders [] p

/-- Adds all that a path leads over. -/
def explore (d : Disk) (folder : Place) : List Text → IO Disk
  | [] => return d
  | name :: rest =>
    if name == parentName then explore d folder.dropLast rest
    else do
      let next := folder ++ [name]
      match ← realPlace? next with
      | none => return d
      | some real =>
        let d ← survey d real
        explore (if real == next then d else d.put next (.link real.toText)) real rest

/-- Adds the configuration files of a folder and of those above it. -/
def exploreSettings (d : Disk) (folder : Place) : IO Disk :=
  (Settings.ancestors folder).foldlM (fun d folder =>
    Settings.sources.foldlM (fun d source => explore d folder [source.file]) d) d

/-- The part of the file system that a run with some arguments may look at. -/
def collect (current : Place) (arguments : List Text) : IO Disk := do
  let d := ({} : Disk).makeFolders [] current
  match Arguments.read arguments with
  | .ok { operands := path :: _, .. } =>
    let r := Route.ofText path
    let d ← explore d (if r.anchor.isAbsolute then [] else current) r.names
    match Document.locate d current (.ofPlace current) r with
    | .ok p => exploreSettings d p.dropLast
    | .error _ => return d
  | _ => return d

/-- Writes the files that a run has changed, in place, so that they keep their owner and mode. -/
def store (old new : Disk) : IO Unit :=
  new.files.forM fun e =>
    match old.node? e.1 with
    | some (.file f) =>
      if f.bytes == e.2.bytes then pure ()
      else IO.FS.writeBinFile (String.ofList e.1.toText) ⟨e.2.bytes.toArray⟩
    | _ => pure ()

end Excerpt.Command

open Excerpt Excerpt.Command in
def main (args : List String) : IO UInt32 := do
  let arguments := args.map String.toList
  let current := placeOf (toString (← IO.FS.realPath (← IO.currentDir)))
  let disk ← collect current arguments
  let limit ← IO.getEnv Limit.variableName
  let outcome := run { disk, current, limit := limit.map String.toList } arguments
  store disk outcome.disk
  IO.print (String.ofList outcome.out)
  IO.eprint (String.ofList outcome.err)
  match outcome.crash with
  | some fault => IO.eprintln (String.ofList fault.reason)
  | none => pure ()
  return outcome.exit.toUInt32
