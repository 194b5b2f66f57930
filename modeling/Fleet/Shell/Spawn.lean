import Fleet.Shell.Evaluation

namespace Fleet.Shell

/-! # Starting programs

What a command does as a process, given the variables it is started with.  The directory is entered
first, and then the program is looked for from there.

An executor of processes takes any `Spawn`.  This one is a machine with a shell and the usual
utilities, so that commands can be run where there is no operating system to run them.
-/

/-- A text with a NUL in it cannot be handed to the operating system. -/
def hasNul (text : String) : Bool := text.toList.contains '\x00'

/-- The files, seen from another directory. -/
def enter (fs : FileSystem) (dir : Path) : Except IoError FileSystem :=
  if dir.text.isEmpty then .error .noEntry
  else match fs.status dir with
    | .ok (loc, .directory _) => .ok { fs with cwd := loc }
    | .ok _ => .error .notDirectory
    | .error e => .error e

/-- The utilities, the shell and the scripts among the files, started with the given variables. -/
def spawn (env : Variables) : Spawn := fun request fs =>
  if hasNul request.dir.text || hasNul request.command || request.args.any hasNul then
    .error .nulInCommand
  else do
    let inside ← enter fs request.dir
    let path := (env.lookup "PATH").getD Program.usualPath
    let found ← Program.find inside path request.command
    let ended := Runner.usual.launch Runner.maxStarts found.program
      { program := found.name, args := found.lead ++ request.args, env, files := inside }
    return {
      stdout := ended.stream false
      stderr := ended.stream true
      status := ended.status
      files := { ended.files with cwd := fs.cwd } }

end Fleet.Shell
