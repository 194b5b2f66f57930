import Fleet.Shell.Deciding
import Fleet.Shell.Declaring
import Fleet.Shell.Directories
import Fleet.Shell.Intake
import Fleet.Shell.Naming

namespace Fleet.Shell

/-! # Commands of an extended shell

The commands that an extended shell has, or does in another way than every shell, apart from those
that run other commands.
-/

namespace Further

open Session Builtin Usage

/-! ## Writing -/

/-- Writes its words, with blanks between them. -/
def echo : Action := fun args => Usage.print (Printing.echoProgram .extended args)

/-- Gives a variable or a place in a list a text. -/
def give (word text : String) : Act Nat := do
  let wish := Declaring.Wish.ofWord word
  if !Word.isName wish.name.toList then
    noName word
    return 2
  else
    match wish.key with
    | some key => assignAt wish.name key false text
    | none => assign wish.name text
    return 0

/-- Writes its words in a format, or gives a variable what would be written. -/
def printf : Action := fun args => do
  match ← Usage.options "printf" "v:" args with
  | none => return 2
  | some (given, words) =>
    let name := (given.getLast?).map (·.2)
    match words, name.filter fun w => !Word.isName (Declaring.Wish.ofWord w).name.toList with
    | [], _ => told "printf"
    | _, some bad =>
      noName bad
      return 2
    | format :: args, none =>
      let w := Printing.printf .extended format args
      for text in w.bad do warn text
      match w.broken with
      | some text => warn text
      | none => pure ()
      let bytes := w.bytes.flatten
      let status ← match name with
        | none => Usage.print bytes
        | some name => give name (String.ofList (Text.decodeLossy (bytes.filter (· != 0))))
      return if w.bad.isEmpty && w.broken.isNone then status else 1

/-! ## Leaving -/

/-- Ends the shell. -/
def exit : Action := fun args => do
  let s ← getShell
  match args with
  | [] => done (s.leaving.getD s.status)
  | [word] =>
    match ← Usage.number? word with
    | some n => done (n % 256).toNat
    | none => done 2
  | word :: _ =>
    match ← Usage.number? word with
    | some _ => tooMany
    | none => done 2
  throw .exit

/-- Goes back from a function, or out of a script that is being read. -/
def back : Action := fun args => do
  let s ← getShell
  let status ← match args with
    | [] => pure s.status
    | [word] => do
      match ← Usage.number? word with
      | some n => pure (n % 256).toNat
      | none => pure 2
    | word :: _ => do
      match ← Usage.number? word with
      | some _ => tooMany
      | none => pure 2
  if s.source.isNone then
    warn "can only \x60return' from a function or sourced script"
    return 2
  else
    done status
    throw .back

/-- Goes out of loops, or on with the next round. -/
def leave (again : Bool) : Action := fun args => do
  let s ← getShell
  if s.loops = 0 then
    warn "only meaningful in a \x60for', \x60while', or \x60until' loop"
    return 0
  else
    match args with
    | _ :: _ :: _ => tooMany
    | [] =>
      done 0
      throw (.leave 1 again)
    | [word] =>
      match ← Usage.number? word with
      | none =>
        done 128
        throw .exit
      | some n =>
        if n < 1 then
          warn (word ++ ": loop count out of range")
          done 1
          throw (.leave s.loops false)
        else
          done 0
          throw (.leave (min n.toNat s.loops) again)

/-- Drops the first parameters. -/
def shift : Action := fun args => do
  match args with
  | _ :: _ :: _ => tooMany
  | _ =>
    match ← Usage.number? (args.headD "1") with
    | none => return 1
    | some n =>
      if n < 0 then
        warn (args.headD "" ++ ": shift count out of range")
        return 1
      else if (← getShell).params.length < n.toNat then return 1
      else
        change fun s => { s with params := s.params.drop n.toNat }
        return 0

/-! ## Numbers -/

/-- Works out formulas: whether the last of them is not zero. -/
def letting : Action := fun args => do
  if args.isEmpty then
    warn "expression expected"
    return 1
  else
    let v ← args.foldlM (fun _ text => workedOut text) (0 : Int)
    return if v = 0 then 1 else 0

/-! ## Options of the shell -/

/-- A text in a column. -/
def column (width : Nat) (text : String) : String :=
  text ++ String.ofList (List.replicate (width - text.length) ' ')

/-- Shows the options. -/
def showOptions (asCommands : Bool) : Act Nat := do
  let s ← getShell
  Usage.printLines (State.furtherNames.map fun (name, c) =>
    if asCommands then "set " ++ (if s.has c then "-" else "+") ++ "o " ++ name
    else column 15 name ++ "\t" ++ if s.has c then "on" else "off")

/-- Turns an option on or off. -/
def turn (on : Bool) (letter : Char) : Act Unit := change fun s =>
  let others := s.options.filter (· != letter)
  { s with options := if on then letter :: others else others }

/-- The letters that may be turned on and off. -/
def optionLetters : List Char := "abefhkmnptuvxBCEHPT".toList

/-- Turns options on and off as words say, and gives back the words behind them; `none` if the words
end with the options. -/
def turnAll : Nat → List String → Act (Except Nat (Option (List String)))
  | 0, words => return .ok (some words)
  | _, [] => return .ok none
  | n + 1, word :: rest =>
    match word.toList with
    | ['-'] => do
      turn false 'x'
      turn false 'v'
      return .ok (if rest.isEmpty then none else some rest)
    | ['-', '-'] => return .ok (some rest)
    | sign :: letters => do
      if sign != '-' && sign != '+' then return .ok (some (word :: rest))
      else
        let on := sign == '-'
        match letters.find? fun c => c != 'o' && !optionLetters.contains c with
        | some bad => return .error (← unknown "set" sign bad)
        | none =>
          for c in letters do if c != 'o' then turn on c
          if letters.contains 'o' then
            match rest with
            | [] =>
              let _ ← showOptions (!on)
              return .ok none
            | name :: rest =>
              match State.furtherNames.lookup name with
              | some letter =>
                turn on letter
                turnAll n rest
              | none =>
                warn (name ++ ": invalid option name")
                return .error 2
          else turnAll n rest
    | [] => return .ok (some (word :: rest))

/-- Changes the options and the parameters of the shell, or shows the variables. -/
def set : Action := fun args => do
  if args.isEmpty then Usage.printLines (Declaring.plainLines (← getShell))
  else
    match ← turnAll (args.length + 1) args with
    | .error status => return status
    | .ok none => return 0
    | .ok (some params) =>
      change fun s => { s with params, within := 0 }
      return 0

/-- The further options, each with whether it is on at first. -/
def customs : List (String × Bool) :=
  let on := ["checkwinsize", "cmdhist", "complete_fullquote", "extquote", "force_fignore",
    "globasciiranges", "globskipdots", "hostcomplete", "interactive_comments",
    "patsub_replacement", "progcomp", "promptvars", "sourcepath"]
  let off := ["autocd", "assoc_expand_once", "cdable_vars", "cdspell", "checkhash", "checkjobs",
    "compat31", "compat32", "compat40", "compat41", "compat42", "compat43", "compat44", "direxpand",
    "dirspell", "dotglob", "execfail", "expand_aliases", "extdebug", "extglob", "failglob",
    "globstar", "gnu_errfmt", "histappend", "histreedit", "histverify", "huponexit",
    "inherit_errexit", "lastpipe", "lithist", "localvar_inherit", "localvar_unset", "login_shell",
    "mailwarn", "no_empty_cmd_completion", "nocaseglob", "nocasematch", "noexpand_translation",
    "nullglob", "progcomp_alias", "restricted_shell", "shift_verbose", "varredir_close", "xpg_echo"]
  -- one name does not stand in its place
  let place (name : String) : String := if name = "autocd" then "a" else name
  (on.map (·, true) ++ off.map (·, false)).mergeSort fun a b => notBehind (place a.1) (place b.1)

/-- Shows and changes the further options. -/
def shopt : Action := fun args => do
  match ← Usage.options "shopt" "psuoq" args with
  | none => return 2
  | some (given, words) =>
    let has (c : Char) : Bool := given.any fun (d, _) => d == c
    let s ← getShell
    let all : List (String × Bool) :=
      if has 'o' then State.furtherNames.map fun (name, c) => (name, s.has c)
      else customs.map fun (name, _) => (name, s.customs.contains name)
    let line (entry : String × Bool) : String :=
      let (name, on) := entry
      if has 'p' then (if has 'o' then "set " ++ (if on then "-" else "+") ++ "o "
        else "shopt " ++ (if on then "-s " else "-u ")) ++ name
      else column 15 name ++ "\t" ++ if on then "on" else "off"
    if words.isEmpty then
      let shown := all.filter fun (_, on) => (!has 's' || on) && (!has 'u' || !on)
      if has 'q' then return 0
      else Usage.printLines (shown.map line)
    else
      let mut status := 0
      for name in words do
        match all.find? (·.1 == name) with
        | none =>
          warn (name ++ (if has 'o' then ": invalid option name"
            else ": invalid shell option name"))
          status := 1
        | some (_, on) =>
          if has 's' || has 'u' then
            if has 'o' then turn (has 's') ((State.furtherNames.lookup name).getD ' ')
            else change fun s =>
              let others := s.customs.filter (· != name)
              { s with customs := if has 's' then name :: others else others }
          else
            if !has 'q' then
              let _ ← Usage.printLines [line (name, on)]
            if !on then status := 1
      return status

/-! ## Names -/

/-- The commands that run others in an extended shell. -/
def running : List String := ["source", "builtin"]

/-- The words that have a meaning where a command may begin. -/
def keywords : List String := Token.keywords ++ Token.furtherKeywords ++ ["]]", "coproc", "select"]

/-- The mask of permissions, which has no effect on files. -/
def mask : Action := fun args => do
  match ← Usage.options "umask" "pS" args with
  | none => return 2
  | some (given, words) =>
    let has (c : Char) : Bool := given.any fun (d, _) => d == c
    let old := (← getShell).mask
    match words with
    | [] =>
      let lead := if has 'p' then (if has 'S' then "umask -S " else "umask ") else ""
      Usage.printLines [lead ++ if has 'S' then maskLetters old
        else String.ofList (Printing.digits 8 4 old false)]
    | word :: _ =>
      let cs := word.toList
      let isNumber := cs.head?.any Char.isDigit
      let asked := if isNumber then
          (Number.magnitude? 8 cs).bind fun (n, rest) =>
            if rest.isEmpty && n < 512 then some n else none
        else (Permission.after? false word (511 - old)).map (511 - ·)
      match asked with
      | some n =>
        change fun s => { s with mask := n }
        return 0
      | none =>
        let signs := ['+', '-', '=']
        let who := cs.dropWhile ['u', 'g', 'o', 'a'].contains
        let bad := (who.dropWhile fun c => signs.contains c || ['r', 'w', 'x', 'X', 's', 't',
          'u', 'g', 'o', ','].contains c).headD ' '
        warn (if isNumber then word ++ ": octal number out of range"
          else if who.head?.any signs.contains then
            "\x60" ++ bad.toString ++ "': invalid symbolic mode character"
          else "\x60" ++ (who.headD ' ').toString ++ "': invalid symbolic mode operator")
        return 1

/-- Gives words a text, or shows such words. -/
def aliasing : Action := fun args => do
  match ← Usage.options "alias" "p" args with
  | none => return 2
  | some (_, words) =>
    let s ← getShell
    let shown (entry : String × String) : String :=
      "alias " ++ entry.1 ++ "=" ++ Quotation.single entry.2
    if words.isEmpty then
      Usage.printLines ((s.aliases.mergeSort fun a b => notBehind a.1 b.1).map shown)
    else
      let mut status := 0
      for word in words do
        match binding word with
        | (name, some text) =>
          change fun s => { s with
            aliases := (name, text) :: s.aliases.filter fun (n, _) => n != name }
        | (name, none) =>
          match s.aliases.lookup name with
          | some text =>
            let _ ← Usage.printLines [shown (name, text)]
          | none =>
            warn (name ++ ": not found")
            status := 1
      return status

/-- Forgets such words. -/
def unaliasing : Action := fun args => do
  match ← Usage.options "unalias" "a" args with
  | none => return 2
  | some (given, words) =>
    if !given.isEmpty then
      change fun s => { s with aliases := [] }
      return 0
    else if words.isEmpty then told "unalias"
    else
      let mut status := 0
      for name in words do
        if ((← getShell).aliases.lookup name).isNone then
          warn (name ++ ": not found")
          status := 1
        change fun s => { s with aliases := s.aliases.filter fun (n, _) => n != name }
      return status

/-- Looks for programs; where they are is not remembered. -/
def looking : Action := fun args => do
  match ← Usage.options "hash" "lrp:dt" args with
  | none => return 2
  | some (given, words) =>
    if words.isEmpty && given.isEmpty then Usage.printLines ["hash: hash table empty"]
    else
      let mut status := 0
      for word in words do
        if (← found? word).isNone then
          warn (word ++ ": not found")
          status := 1
      return status

/-! ## Signals -/

/-- What may be waited for beside signals, by number. -/
def events : List (Nat × String) :=
  [(State.beginning, "DEBUG"), (State.failure, "ERR"), (State.goingBack, "RETURN")]

/-- The number of a signal or an event that is named, with or without `SIG`, or numbered. -/
def eventOf? (word : String) : Option Nat :=
  let upper := word.toList.map Char.toUpper
  let name := String.ofList (if "SIG".toList.isPrefixOf upper then upper.drop 3 else upper)
  Signal.number? 0 name <|> (events.find? (·.2 == name)).map (·.1)

/-- How a signal or an event is called in a list of traps. -/
def eventName (n : Nat) : String :=
  if n = 0 then "EXIT"
  else match events.lookup n with
    | some name => name
    | none => "SIG" ++ (SignalName.all[n]?).getD ("RTMIN+" ++ toString (n - 34))

/-- The name of a signal that has a number. -/
def signalName (n : Nat) : String :=
  if n = 16 then "STKFLT"
  else if n = 34 then "RTMIN"
  else if n = 64 then "RTMAX"
  else if n < 50 && 34 < n then "RTMIN+" ++ toString (n - 34)
  else if 49 < n then "RTMAX-" ++ toString (64 - n)
  else (SignalName.all[n]?).getD ""

/-- All signals in rows of five. -/
def signalTable : List String :=
  let numbers := (List.range 65).filter fun n => n != 0 && n != 32 && n != 33
  let cell (n : Nat) : String := (if n < 10 then " " else "") ++ toString n ++ ") SIG" ++ signalName n
  let rec rows : Nat → List Nat → List String
    | 0, _ => []
    | _, [] => []
    | k + 1, ns =>
      let row := "\t".intercalate ((ns.take 5).map cell)
      (if ns.length < 5 then row ++ "\t" else row) :: rows k (ns.drop 5)
  rows numbers.length numbers

/-- Says what is to be done when signals come, or tells it. -/
def trap : Action := fun args => do
  match ← Usage.options "trap" "lp" args with
  | none => return 2
  | some (given, words) =>
    let s ← getShell
    let lineOf (n : Nat) : Option String := (s.traps.lookup n).map fun action =>
      "trap -- " ++ Quotation.single action ++ " " ++ eventName n
    if given.any (·.1 == 'l') then Usage.printLines signalTable
    else if words.isEmpty then Usage.printLines ((List.range 68).filterMap lineOf)
    else if given.any (·.1 == 'p') then
      Usage.printLines (words.filterMap fun w => (eventOf? w).bind lineOf)
    else match words with
      | [one] =>
        match eventOf? one with
        | some n => setAll none [toString n]
        | none => told "trap"
      | action :: signals =>
        if (Number.natural? action).isSome && (eventOf? action).isSome then setAll none words
        else setAll (if action = "-" then none else some action) signals
      | [] => return 0
where
  /-- Says what is done at each of the signals. -/
  setAll (action : Option String) (words : List String) : Act Nat := do
    let mut status := 0
    for word in words do
      match eventOf? word <|> (Number.natural? word).filter fun n => (events.lookup n).isSome with
      | none =>
        warn (word ++ ": invalid signal specification")
        status := 1
      | some n =>
        change fun s =>
          let others := s.traps.filter fun (k, _) => k != n
          { s with traps := match action with
            | some text => (n, text) :: others
            | none => others }
    return status

/-- Sends a signal to processes. -/
def sendAll (signal : Nat) (words : List String) : Act Nat := do
  if words.isEmpty then told "kill"
  else
    let mut status := 0
    for word in words do
      let digits := if word.toList.head? == some '-' then String.ofList (word.toList.drop 1) else word
      match Number.natural? digits with
      | none =>
        if word.toList.head? == some '%' then warn (word ++ ": no such job")
        else warn (word ++ ": arguments must be process or job IDs")
        status := 1
      | some pid =>
        if !(← Signal.send pid signal) then
          warn ("(" ++ word ++ ") - No such process")
          status := 1
    return status

/-- Sends signals, or tells their names. -/
def kill : Action := fun args => do
  let bad (word : String) : Act Nat := do
    warn (word ++ ": invalid signal specification")
    return 1
  match args with
  | [] => told "kill"
  | "-l" :: [] | "-L" :: [] => Usage.printLines signalTable
  | "-l" :: words =>
    let mut status := 0
    for word in words do
      match Number.natural? word with
      | some n =>
        let n := if 128 < n then n - 128 else n
        if n < 65 && n != 0 then
          let _ ← Usage.printLines [signalName n]
        else
          let _ ← bad word
          status := 1
      | none =>
        match eventOf? word with
        | some n =>
          let _ ← Usage.printLines [toString n]
        | none =>
          let _ ← bad word
          status := 1
    return status
  | "-s" :: [] | "-n" :: [] =>
    warn (args.headD "" ++ ": option requires an argument")
    return 1
  | "-s" :: name :: words | "-n" :: name :: words =>
    match eventOf? name with
    | some n => if n < 65 then sendAll n words else bad name
    | none => bad name
  | "--" :: words => sendAll 15 words
  | word :: words =>
    match word.toList with
    | '-' :: name =>
      match eventOf? (String.ofList name) with
      | some n => if n < 65 then sendAll n words else bad (String.ofList name)
      | none => bad (String.ofList name)
    | _ => sendAll 15 args

/-! ## Options of scripts -/

/-- Takes the next option from the parameters. -/
def getOptions : Action := fun args => do
  match ← Usage.options "getopts" "" args with
  | none => return 2
  | some (_, known :: name :: given) =>
    let s ← getShell
    let words := if given.isEmpty then s.params else given
    let index := ((s.valueOf? "OPTIND").bind Number.natural?).getD 1
    let (index, within) := if index < 1 then (1, 0) else (index, s.within)
    let c := Builtin.choose known.toList words index within
    match c.message with
    | some text =>
      if s.valueOf? "OPTERR" ≠ some "0" then
        let letter := (text.toList.dropWhile (· != '-')).getD 1 ' '
        let told := if "Illegal".toList.isPrefixOf text.toList then "illegal option -- "
          else "option requires an argument -- "
        let _ ← write 2 (Text.encode (s.name ++ ": " ++ told ++ letter.toString ++ "\n"))
    | none => pure ()
    match c.value with
    | some value =>
      if value.isEmpty && !c.keeps then change (·.without "OPTARG") else assign "OPTARG" value
    | none => change (·.without "OPTARG")
    assign "OPTIND" (toString (c.passed + 1))
    if Word.isName name.toList then
      assign name c.letter.toString
      change fun s => { s with within := c.within }
      return if c.found then 0 else 1
    else
      noName name
      return 1
  | some _ => told "getopts"

/-- A command that needs jobs under control. -/
def controlled (name : String) : Action := fun _ => do
  change fun s => { s with command := some name }
  warn "no job control"
  return 1

/-- Tells how much time was used. -/
def times : Action := fun _ => Usage.printLines ["0m0.000s 0m0.000s", "0m0.000s 0m0.000s"]

/-- The commands that an extended shell has or does in another way. -/
def all : List (String × Action) :=
  [("echo", echo), ("printf", printf), ("test", Deciding.test), ("[", Deciding.bracket),
    ("exit", exit), ("return", back), ("break", leave false), ("continue", leave true),
    ("declare", Declaring.declareAny "declare"), ("typeset", Declaring.declareAny "typeset"),
    ("local", Declaring.declareLocal), ("export", Declaring.exportAll),
    ("readonly", Declaring.fixAll), ("unset", Declaring.unset), ("shift", shift), ("set", set),
    ("shopt", shopt), ("let", letting), ("read", Intake.read),
    ("mapfile", Intake.readAll "mapfile"), ("readarray", Intake.readAll "readarray"),
    ("cd", Directories.cd), ("pwd", Directories.pwd), ("dirs", Directories.dirs),
    ("pushd", Directories.pushd), ("popd", Directories.popd), ("umask", mask),
    ("alias", aliasing), ("unalias", unaliasing), ("hash", looking), ("trap", trap),
    ("kill", kill), ("getopts", getOptions), ("fg", controlled "fg"), ("bg", controlled "bg"),
    ("times", times)]

/-- An extended shell has a command of the name. -/
def has (name : String) : Bool :=
  (name ≠ "chdir" && Builtin.has name) || running.contains name || (all.lookup name).isSome

/-- The kinds of things that a name may mean, in the order in which they are looked for. -/
inductive Meaning where
  | keyword
  | function
  | own
  | file (path : String)

/-- What a name means, all of it or the first. -/
def meanings (name : String) : Act (List Meaning) := do
  let s ← get
  let path := (s.shell.valueOf? "PATH").getD ""
  let dirs := if name.toList.contains '/' then [path]
    else (Text.splitOn ':' path.toList).map String.ofList
  let files := dirs.filterMap fun dir => match Program.find s.world.files dir name with
    | .ok found => some found.path
    | .error e => if e = .notProgram then some (Path.mk dir / name).text else none
  return (if keywords.contains name then [.keyword] else []) ++
    (if (s.shell.functions.lookup name).isSome then [.function] else []) ++
    (if has name then [.own] else []) ++ files.map .file

/-- What a name means, as it is told. -/
def sentence (name : String) : Meaning → String
  | .keyword => name ++ " is a shell keyword"
  | .function => name ++ " is a function"
  | .own => name ++ " is a shell builtin"
  | .file path => name ++ " is " ++ path

/-- What a name means, in a word. -/
def kind : Meaning → String
  | .keyword => "keyword"
  | .function => "function"
  | .own => "builtin"
  | .file _ => "file"

/-- Tells what names mean. -/
def type : Action := fun args => do
  match ← Usage.options "type" "afptP" args with
  | none => return 2
  | some (given, words) =>
    let has (c : Char) : Bool := given.any fun (d, _) => d == c
    let mut status := 0
    for name in words do
      let all ← meanings name
      let files := all.filter fun
        | .file _ => true
        | _ => false
      let all := if has 'P' then files else if has 'f' then all.filter fun
          | .function => false
          | _ => true
        else all
      let shown := if has 'a' then all else all.take 1
      let lines := shown.filterMap fun m =>
        if has 't' then some (kind m)
        else match m with
          | .file path => if has 'p' || has 'P' then some path else some (sentence name m)
          | m => if has 'p' then none else some (sentence name m)
      if shown.isEmpty then
        if !(has 't' || has 'p' || has 'P') then warn (name ++ ": not found")
        status := 1
      else
        let _ ← Usage.printLines lines
    return status

/-- Tells what names mean, briefly or in sentences. -/
def describe (inSentences : Bool) (words : List String) : Act Nat := do
  let mut status := 1
  for name in words do
    match (← meanings name).head? with
    | some m =>
      let text := if inSentences then sentence name m else match m with
        | .file path => path
        | _ => name
      let _ ← Usage.printLines [text]
      status := 0
    | none => if inSentences then warn (name ++ ": not found")
  return status

/-- The command of a name, if an extended shell has one that runs no others. -/
def action? (name : String) : Option Action :=
  if name = "type" then some type
  else all.lookup name <|> if has name then Builtin.action? name else none

end Further

end Fleet.Shell
