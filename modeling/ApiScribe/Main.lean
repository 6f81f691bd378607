import ApiScribe.CommandLine

set_option autoImplicit false

namespace ApiScribe

def Command.paths : Command → List String
  | .generate options =>
    options.allRoots ++ options.externalTypes.toList ++ options.output.toList
  | .merge options => [options.mainFile, options.folder, options.output]

/-- Whether an entry of the working folder is read: hidden entries and built things only if a path of
the command leads there. -/
def Command.concerns (command : Command) (names : List String) : Bool :=
  !(names.getLast?.map Discovery.isSkipped).getD false ||
    command.paths.any fun path => names.isPrefixOf ((Files.inside? path).getD [])

partial def readEntry (command : Command) (names : List String) (entry : IO.FS.DirEntry) :
    IO (Option Files) := do
  match (← entry.path.symlinkMetadata).type with
  | .dir =>
    let mut entries : Dict Files := []
    for inner in ← entry.path.readDir do
      let names := names ++ [inner.fileName]
      if command.concerns names then
        if let some node ← readEntry command names inner then
          entries := Dict.insert inner.fileName node entries
    return some (.folder entries)
  | .file =>
    try
      return some (.file (String.fromUTF8? (← IO.FS.readBinFile entry.path)))
    catch _ => return some (.file none)
  | _ => return none

def readWorkingFolder (command : Command) : IO Files := do
  let mut entries : Dict Files := []
  for entry in ← (← IO.currentDir).readDir do
    if command.concerns [entry.fileName] then
      if let some node ← readEntry command [entry.fileName] entry then
        entries := Dict.insert entry.fileName node entries
  return .folder entries

def writeChanges (before : Files) (report : Report) : IO Unit := do
  for path in Files.newFolders before report.files do
    IO.FS.createDirAll path
  for (path, text) in Files.changes before report.files do
    IO.FS.writeFile path text
  for (path, text) in report.outside do
    match Path.parent? path with
    | some parent => unless parent.isEmpty do IO.FS.createDirAll parent
    | none => pure ()
    IO.FS.writeFile path text

def tell (verbose : Bool) (report : Report) : IO Unit := do
  for fault in report.faults do
    IO.eprintln fault.message
  for diagnostic in report.diagnostics do
    if verbose || diagnostic.isError then IO.eprintln diagnostic.display

def Invocation.execute (invocation : Invocation) : IO UInt32 := do
  let files ← readWorkingFolder invocation.command
  match invocation.command.check files >>= fun _ => invocation.command.run files with
  | .error error =>
    IO.eprintln ("Error: " ++ error.message)
    return 1
  | .ok report =>
    tell invocation.verbose report
    writeChanges files report
    IO.print report.printed
    return 0

end ApiScribe

open ApiScribe in
def main (arguments : List String) : IO UInt32 := do
  match Invocation.ofArguments arguments with
  | .ok invocation => invocation.execute
  | .error error =>
    match error with
    | .helpAsked | .versionAsked =>
      IO.println error.message
      return 0
    | _ =>
      IO.eprintln error.message
      return 2
