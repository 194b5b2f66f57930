import Fleet.Shell.Further
import Fleet.Shell.Process

namespace Fleet.Shell

/-! # How shells begin

What a shell knows before its first command, and what it is asked for when it is called: the options
in front of its words, and where its text comes from.
-/

namespace Beginning

open Session

/-- The directory as a shell names it that begins there. -/
def directoryOf (env : Variables) (files : FileSystem) : String :=
  let physical := (FileSystem.pathOf files.cwd).text
  match env.lookup "PWD" with
  | some p => match files.status ⟨p⟩ with
    | .ok (loc, .directory _) =>
      if loc = files.cwd && FileSystem.startsAtRoot p then p else physical
    | _ => physical
  | none => physical

/-- The directories that are searched for programs if no variable names any. -/
def usualPath : String := "/usr/local/sbin:/usr/local/bin:/usr/sbin:/usr/bin:/sbin:/bin"

/-- A shell as it begins, which is called by a name. -/
def plainShell (name : String) (pid : Nat) (env : Variables) (files : FileSystem)
    (streams : List (Nat × Nat)) : State :=
  let directory := directoryOf env files
  let own : List (String × Variable) :=
    [("IFS", " \t\n"), ("PATH", usualPath), ("PS1", "# "), ("PS2", "> "), ("PS4", "+ "),
      ("OPTIND", "1")].map fun (name, value) => (name, { value := some value })
  let given := env.filter fun (name, _) => Word.isName name.toList
  let s : State := { name, pid, root := pid, streams, directory, store := own, line := 0 }
  let s := given.foldl (fun s (name, value) =>
    let value := if name = "IFS" then " \t\n" else value
    s.put name { value := some value, exported := true }) s
  let s := s.assigned "PPID" (toString (pid - 1))
  s.put "PWD" { value := some directory, exported := true }

/-- The variables of an extended shell that none is given. -/
def ownVariables (pid : Nat) : List (String × Variable) :=
  let text (name value : String) : String × Variable := (name, { value := some value })
  let number (name : String) (n : Nat) : String × Variable :=
    (name, { value := some (toString n), readOnly := true, traits := ['i'] })
  let versions : Variable := { value := none, readOnly := true }
  let empty (name : String) (cells : Cells) : String × Variable :=
    (name, ({ value := none } : Variable).withCells cells)
  [text "BASH" "/usr/bin/bash", empty "BASH_ALIASES" (.named []), empty "BASH_ARGC" (.numbered []),
    empty "BASH_ARGV" (.numbered []), empty "BASH_CMDS" (.named []),
    empty "BASH_LINENO" (.numbered []),
    text "BASH_LOADABLES_PATH" ("/usr/local/lib/bash:/usr/lib/bash:/opt/local/lib/bash:" ++
      "/usr/pkg/lib/bash:/opt/pkg/lib/bash:."),
    ("BASH_VERSINFO", versions.withCells
      (.ofValues ["5", "2", "21", "1", "release", "x86_64-pc-linux-gnu"])),
    text "BASH_VERSION" "5.2.21(1)-release", empty "DIRSTACK" (.numbered []), number "EUID" 0,
    empty "GROUPS" (.numbered []), text "HOSTNAME" "localhost", text "HOSTTYPE" "x86_64",
    text "IFS" " \t\n", text "MACHTYPE" "x86_64-pc-linux-gnu",
    ("OLDPWD", { value := none, exported := true }), text "OPTERR" "1",
    ("OPTIND", { value := some "1", traits := ['i'] }), text "OSTYPE" "linux-gnu",
    text "PATH" usualPath, number "PPID" (pid - 1), text "PS4" "+ ", text "SHELL" "/bin/bash",
    text "TERM" "dumb", number "UID" 0]

/-- An extended shell as it begins, which is called by a name. -/
def extendedShell (name : String) (pid : Nat) (env : Variables) (files : FileSystem)
    (streams : List (Nat × Nat)) : State :=
  let directory := directoryOf env files
  let fixed := ["BASH_VERSINFO", "EUID", "PPID", "UID"]
  let given := env.filter fun (name, _) => Word.isName name.toList && !fixed.contains name
  let level := ((env.lookup "SHLVL").bind Number.natural?).getD 0
  let customs := (Further.customs.filter (·.2)).map (·.1)
  let s : State := {
    name, pid, root := pid, streams, directory
    store := ownVariables pid
    options := ['h', 'B']
    extended := true
    customs }
  let s := given.foldl (fun s (name, value) =>
    let value := if name = "IFS" then " \t\n" else value
    s.putAs name { value := some value, exported := true }) s
  let s := s.putAs "SHLVL" { value := some (toString (level + 1)), exported := true }
  let s := s.putAs "PWD" { value := some directory, exported := true }
  s.putAs "_" { value := some name }

/-- A shell as it begins, which is called by a name. -/
def shell (extended : Bool) (name : String) (pid : Nat) (env : Variables) (files : FileSystem)
    (streams : List (Nat × Nat)) : State :=
  if extended then extendedShell name pid env files streams
  else plainShell name pid env files streams

/-! ## What a shell is asked for -/

/-- What a shell is asked for when it is called. -/
structure Request where
  text : Option String := none
  name : Option String := none
  params : List String := []
  /-- the name of a file with commands -/
  file : Option String := none

/-- Reads the options of a shell: the letters of commands and input are told apart. -/
def startOptions : Nat → Bool → List String → Act (Bool × List String)
  | 0, asked, words => return (asked, words)
  | _, asked, [] => return (asked, [])
  | n + 1, asked, word :: rest =>
    match word.toList with
    | ['-'] | ['-', '-'] => return (asked, rest)
    | sign :: letters => do
      if sign != '-' && sign != '+' then return (asked, word :: rest)
      else
        let on := sign == '-'
        let own := letters.filter fun c => c != 'c' && c != 'l'
        let asked := asked || (on && letters.contains 'c')
        if own.contains 'o' then
          match rest with
          | [] =>
            let _ ← Builtin.showOptions (!on)
            startOptions n asked []
          | name :: rest =>
            let _ ← Builtin.turnAll 2 [String.ofList (sign :: own), name]
            startOptions n asked rest
        else
          for c in own do Builtin.turn on c
          startOptions n asked rest
    | [] => return (asked, word :: rest)

/-- Gives up before the first command. -/
def refuse {α : Type} (text : String) (status : Nat := 2) : Act α := do
  let _ ← write 2 (Text.encode (text ++ "\n"))
  done status
  throw .exit

/-- The long options of an extended shell. -/
def longOptions : List String :=
  ["debug", "debugger", "dump-po-strings", "dump-strings", "help", "init-file", "login",
    "noediting", "noprofile", "norc", "posix", "pretty-print", "rcfile", "restricted", "verbose",
    "version"]

/-- How an extended shell is called. -/
def usage (name : String) : String :=
  let forms := ["Usage:\t" ++ name ++ " [GNU long option] [option] ...",
    "\t" ++ name ++ " [GNU long option] [option] script-file ...", "GNU long options:"]
  let letters := ["Shell options:",
    "\t-ilrsD or -c command or -O shopt_option\t\t(invocation only)",
    "\t-abefhkmnptuvxBCEHPT or -o option"]
  "\n".intercalate (forms ++ longOptions.map ("\t--" ++ ·) ++ letters)

/-- What an extended shell says of its version. -/
def version : String := "GNU bash, version 5.2.21(1)-release (x86_64-pc-linux-gnu)"

/-- Reads the long options of an extended shell, which stand in front of the others. -/
def passLong (name : String) : List String → Act (List String)
  | [] => return []
  | word :: rest => do
    match word.toList with
    | '-' :: '-' :: c :: more =>
      let long := String.ofList (c :: more)
      match long with
      | "version" =>
        let _ ← Usage.printLines [version]
        done 0
        throw .exit
      | "help" =>
        let _ ← Usage.printLines [usage name]
        done 0
        throw .exit
      | "posix" => Further.turn true '7'
      | "verbose" => Further.turn true 'v'
      | _ => pure ()
      if !longOptions.contains long then
        refuse (name ++ ": " ++ word ++ ": invalid option\n" ++ usage name)
      else if long = "rcfile" || long = "init-file" then
        match rest with
        | _ :: rest => passLong name rest
        | [] => refuse (name ++ ": " ++ word ++ ": option requires an argument")
      else passLong name rest
    | _ => return word :: rest

/-- Reads the options of an extended shell, and tells the letter of commands apart. -/
def furtherOptions (name : String) : Nat → Bool → List String → Act (Bool × List String)
  | 0, asked, words => return (asked, words)
  | _, asked, [] => return (asked, [])
  | n + 1, asked, word :: rest =>
    match word.toList with
    | ['-'] | ['-', '-'] => return (asked, rest)
    | sign :: letters => do
      if sign != '-' && sign != '+' then return (asked, word :: rest)
      else
        let on := sign == '-'
        let known := ['c', 's', 'i', 'l', 'r', 'D', 'o', 'O'] ++ Further.optionLetters
        match letters.find? fun c => !known.contains c with
        | some bad => refuse (name ++ ": " ++ String.ofList [sign, bad] ++ ": invalid option\n" ++
            usage name)
        | none =>
          for c in letters do
            if c != 'o' && c != 'O' then Further.turn on c
          let rest ← letters.foldlM (fun (rest : List String) c => do
            if c != 'o' && c != 'O' then return rest
            else match rest with
              | [] =>
                let _ ← if c == 'o' then Further.showOptions (!on)
                  else Further.shopt (if on then [] else ["-p"])
                return []
              | word :: rest =>
                if c == 'o' then
                  match State.furtherNames.lookup word with
                  | some letter => Further.turn on letter
                  | none => refuse (name ++ ": line 0: " ++ name ++ ": " ++ word ++
                      ": invalid option name")
                else if (Further.customs.lookup word).isSome then
                  let _ ← Further.shopt [if on then "-s" else "-u", word]
                else refuse (name ++ ": line 0: " ++ word ++ ": invalid shell option name")
                return rest) rest
          furtherOptions name n (asked || (on && letters.contains 'c')) rest
    | [] => return (asked, word :: rest)

/-- Reads the command line of a shell. -/
def request (args : List String) : Act Request := do
  let s ← getShell
  let (asked, words) ← if s.extended then do
      let words ← passLong s.name args
      furtherOptions s.name (words.length + 1) false words
    else startOptions (args.length + 1) false args
  match asked, words with
  | true, [] =>
    if s.extended then refuse (s.name ++ ": -c: option requires an argument")
    else fail "-c requires an argument"
  | true, [text] => return { text := some text }
  | true, text :: name :: params => return { text := some text, name := some name, params }
  | false, words =>
    if words.isEmpty || (← getShell).has 's' then
      if s.extended then Further.turn true 's'
      return { params := words }
    else return { file := words.head?, name := words.head?, params := words.tail }

/-- Bytes as the text of a script, in which zeros do not count. -/
def scriptOf (bytes : List UInt8) : String :=
  String.ofList (Text.decodeLossy (bytes.filter (· != 0)))

/-- What is left to be read from a stream. -/
def streamText? (stream : Nat) : Act (Option String) := do
  let s ← get
  match (s.shell.streams.lookup stream).map fun n => (n, s.world.readable n) with
  | some (channel, .ok (bytes, _)) =>
    changeWorld (·.passed channel bytes.length)
    return some (scriptOf bytes)
  | _ => return none

/-- The content of a file with commands. -/
def scriptIn (path : String) : Act (Except IoError String) := do
  match Expansion.streamAt? path with
  | some n =>
    match ← streamText? n with
    | some text => return .ok text
    | none => return .error .noEntry
  | none =>
    if path = "/dev/null" then return .ok ""
    else return ((← get).world.files.readFile ⟨path⟩).map fun content =>
      scriptOf content.data.toList

/-- The text that a request is for. -/
def textOf (r : Request) : Act String := do
  let s ← getShell
  match r.text, r.file with
  | some text, _ => return text
  | none, some file =>
    match ← scriptIn file with
    | .ok text => return text
    | .error e =>
      if s.extended then
        if e = .isDirectory then refuse (file ++ ": " ++ file ++ ": " ++ reason e) 126
        else refuse (s.name ++ ": " ++ file ++ ": " ++ reason e) 127
      else if e = .isDirectory then return ""
      else fail ("cannot open " ++ file ++ ": " ++ Expansion.reasonOf "No such file" e)
  | none, none => return (← streamText? 0).getD ""

end Beginning

end Fleet.Shell
