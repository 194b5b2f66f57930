import Fleet.Shell.Bytes
import Fleet.Shell.Command
import Fleet.Shell.FileUtility
import Fleet.Shell.Invocation
import Fleet.Shell.SignalName
import Fleet.Shell.TextUtility

namespace Fleet.Shell

/-! # Programs that start programs

Each of these gets the means of starting a command, and says with what variables, input and
arguments it is started and what its end means.
-/

/-- What a program can do that starts others. -/
structure Starter where
  /-- Starts the command of these words, with the variables, input and files of the invocation; or
  says why it cannot be started. -/
  start : Invocation → List String → Except IoError Ended
  /-- The path of the program of a name. -/
  locate : Invocation → String → Option String

/-- A program that is always there and starts others. -/
abbrev Caller := Starter → Utility

namespace Starting

/-- The status of a program that could not start another. -/
def statusOf (e : IoError) : Nat := if e = .noEntry then 127 else 126

/-- The status of an end, where a signal counts by its number. -/
def codeOf : ExitStatus → Nat
  | .exited code => code
  | .killed signal _ => 128 + signal

/-- Starts a command in the place of this program. -/
def instead (s : Starter) (i : Invocation) (words : List String) (complaint : String → String) :
    Ended :=
  match s.start i words with
  | .ok ended => ended
  | .error e => i.complained (complaint (Options.quoted (words.headD "")) ++ ": " ++ reason e)
      (statusOf e)

/-! ## More variables -/

/-- Cuts `name=value`. -/
def binding? (word : String) : Option (String × String) :=
  let name := word.toList.takeWhile (· != '=')
  match word.toList.drop name.length with
  | _ :: value => some (String.ofList name, String.ofList value)
  | [] => none

/-- Gives a variable a value, in its place if it has one. -/
def assigned (env : Variables) (name value : String) : Variables :=
  if env.any fun (n, _) => n == name then
    env.map fun (n, old) => (n, if n == name then value else old)
  else env ++ [(name, value)]

/-- The words of a text that holds a whole command line: blanks separate, quotes join. -/
def wordsOf (env : Variables) : Nat → Option (List Char) → Option Char → List Char → List String
  | 0, word, _, _ => (word.map fun cs => String.ofList cs.reverse).toList
  | _, word, _, [] => (word.map fun cs => String.ofList cs.reverse).toList
  | n + 1, word, none, c :: rest =>
    if Number.isBlank c then
      (word.map fun cs => String.ofList cs.reverse).toList ++ wordsOf env n none none rest
    else if c == '\'' || c == '"' then wordsOf env n (some (word.getD [])) (some c) rest
    else text n word none c rest
  | n + 1, word, some quote, c :: rest =>
    if c == quote then wordsOf env n word none rest else text n word (some quote) c rest
where
  /-- Takes a character that belongs to a word. -/
  text (n : Nat) (word : Option (List Char)) (quote : Option Char) (c : Char) (rest : List Char) :
      List String :=
    let cs := word.getD []
    match c, rest with
    | '\\', d :: after =>
      let meant := ([('n', '\n'), ('t', '\t'), ('r', '\r'), ('f', '\x0c'), ('v', '\x0b'),
        ('_', ' ')].lookup d).getD d
      if quote == some '\'' && d != '\\' && d != '\'' then
        wordsOf env n (some ('\\' :: cs)) quote rest
      else wordsOf env n (some (meant :: cs)) quote after
    | '$', '\x7b' :: after =>
      if quote == some '\'' then wordsOf env n (some (c :: cs)) quote rest
      else
        let name := after.takeWhile Word.isNameChar
        let value := ((env.lookup (String.ofList name)).getD "").toList
        wordsOf env n (some (value.reverse ++ cs)) quote (after.drop (name.length + 1))
    | _, _ => wordsOf env n (some (c :: cs)) quote rest

/-- Puts the words of a split text in the place of the option that holds it. -/
def withSplit (env : Variables) : List String → List String
  | [] => []
  | word :: rest =>
    match word.toList, rest with
    | ['-', 'S'], text :: rest =>
      wordsOf env (2 * text.length + 2) none none text.toList ++ rest
    | ['-', 'S'], [] => [word]
    | '-' :: 'S' :: text, rest => wordsOf env (2 * text.length + 2) none none text ++ rest
    | '-' :: c :: _, rest => if c == '-' then word :: rest else word :: withSplit env rest
    | _, rest => word :: rest

/-- A word with a blank in it may be one that the first line of a script should have split. -/
def splitHint (i : Invocation) : Bool × List UInt8 :=
  i.complaint "use -[v]S to pass options in shebang lines"

/-- The program `env`: starts a command with other variables, or shows the variables. -/
def environment : Caller := fun s i =>
  let args := withSplit i.env i.args
  let knowledge : Knowledge := {
    alone := "i0v"
    valued := "uCS"
    long := [("ignore-environment", 'i'), ("null", '0'), ("unset", 'u'), ("chdir", 'C'),
      ("split-string", 'S')] }
  match Options.readFrom knowledge true (args.length + 1) {} args with
  | .error text =>
    let hints := if text = "invalid option -- ' '" then [splitHint i, i.hint] else [i.hint]
    { i.ends 125 with output := i.complaint text :: hints }
  | .ok o =>
    let (clears, words) := match o.words with
      | "-" :: rest => (true, rest)
      | words => (o.has 'i', words)
    let kept := if clears then [] else i.env.filter fun (name, _) => !(o.values 'u').contains name
    let given := words.takeWhile fun word => (binding? word).isSome
    let env := (given.filterMap binding?).foldl (fun env (name, value) => assigned env name value)
      kept
    let stop := if o.has '0' then "\x00" else "\n"
    match words.drop given.length with
    | [] => i.said (String.join (env.map fun (name, value) => name ++ "=" ++ value ++ stop))
    | command =>
      if o.has '0' then i.misused "cannot specify --null (-0) with command" 125
      else
        let found : Except IoError FileSystem := match o.value? 'C' with
          | none => .ok i.files
          | some dir => match i.files.status ⟨dir⟩ with
            | .ok (loc, .directory _) => .ok { i.files with cwd := loc }
            | .ok _ => .error .notDirectory
            | .error e => .error e
        match found with
        | .ok files =>
          let i : Invocation := { i with env, files }
          match s.start i command with
          | .ok ended => ended
          | .error e =>
            let word := command.headD ""
            let hints := if e = .noEntry && word.toList.contains ' ' then [splitHint i] else []
            { i.ends (statusOf e) with
              output := i.complaint (Options.quoted word ++ ": " ++ reason e) :: hints }
        | .error e =>
          i.complained ("cannot change directory to " ++
            Options.quoted ((o.value? 'C').getD "") ++ ": " ++ reason e) 125

/-! ## Limits and priorities -/

/-- The number of a signal that is named, with or without `SIG`, or numbered. -/
def signalOf? (word : String) : Option Nat :=
  let cs := word.toList.map Char.toUpper
  let name := String.ofList (if "SIG".toList.isPrefixOf cs then cs.drop 3 else cs)
  match Number.natural? word with
  | some n => if n < 65 then some n else none
  | none => SignalName.all.idxOf? name

/-- What comes of a program that ran until its time was over. -/
def overdue (i : Invocation) (o : Options) (deadline : Deadline) (word : String) (ended : Ended) :
    Ended :=
  let name := (SignalName.all[deadline.signal]?).getD (toString deadline.signal)
  let told := if o.has 'v' then
      [i.complaint ("sending signal " ++ name ++ " to command " ++ Options.quoted word)]
    else []
  { ended with
    output := ended.output ++ told
    status :=
      if deadline.signal = 9 then .killed 9
      else .exited (if o.has 'P' then codeOf ended.status else 124) }

/-- The program `timeout`: starts a command that may run for some time only. -/
def limited : Caller := fun s i =>
  i.withOptions {
      alone := "fv"
      valued := "ks"
      long := [("kill-after", 'k'), ("signal", 's'), ("foreground", 'f'),
        ("preserve-status", 'P'), ("verbose", 'v')] } (fun o =>
    let signal := (o.value? 's').getD "TERM"
    match o.words, signalOf? signal with
    | time :: word :: args, some signal =>
      match TextUtility.duration? time with
      | none => i.misused ("invalid time interval " ++ Options.quoted time) 125
      | some time =>
        let own : Deadline := { time, signal }
        let isFirst := i.deadline.all fun d => time < d.time
        let bounded := if 0 < time && isFirst then { i with deadline := some own } else i
        let ended := instead s bounded (word :: args) fun name => "failed to run command " ++ name
        if 0 < time && isFirst && time ≤ ended.slept then overdue i o own word ended else ended
    | _ :: _ :: _, none => i.misused (Options.quoted signal ++ ": invalid signal") 125
    | _, _ => { i.ends 125 with output := [i.hint] })
    true 125

/-- The program `nice`: starts a command, whose priority makes no difference. -/
def nice : Caller := fun s i =>
  i.withOptions { valued := "n", long := [("adjustment", 'n')] } (fun o =>
    if o.words.isEmpty then i.said "0\n" else instead s i o.words id)
    true 125

/-- The program `nohup`: starts a command. -/
def nohup : Caller := fun s i =>
  i.withOptions {} (fun o =>
    if o.words.isEmpty then i.missing "operand" 125
    else instead s i o.words fun name => "failed to run command " ++ name)
    true 125

/-- The program `which`: tells the paths of programs. -/
def which : Caller := fun s i =>
  match Options.readFrom { alone := "as" } true (i.args.length + 1) {} i.args with
  | .error _ =>
    let letter := (i.args.flatMap fun word => (word.toList.drop 1).filter fun c =>
      c != 'a' && c != 's').headD '-'
    { i.ends 2 with
      output := [(true, Text.encode ("Illegal option -" ++ letter.toString ++ "\n")),
        (false, Text.encode "Usage: /usr/bin/which [-as] args\n")] }
  | .ok o =>
    let found := o.words.map (s.locate i)
    i.said (String.join (found.filterMap fun p => p.map (· ++ "\n")))
      (if !found.isEmpty && found.all Option.isSome then 0 else 1)

/-! ## Commands over many words -/

/-- Words of an input, each with its line; blanks separate, quotes and backslashes join.  With
`whole` a line is one word.  A line goes on behind a blank at its end. -/
def inputWords (whole : Bool) : Nat → Nat → Option (List Char) → Char → List Char →
    Except String (List (Nat × String))
  | 0, _, _, _, _ => .ok []
  | n + 1, line, word, before, cs =>
    let done : List (Nat × String) := (word.map fun w => (line, Bytes.widen w.reverse)).toList
    match cs with
    | [] => .ok done
    | '\\' :: c :: rest => inputWords whole n line (some (c :: word.getD [])) c rest
    | c :: rest =>
      if c == '\n' then do
        let others ← inputWords whole n (if isGap before && !whole then line else line + 1) none c
          rest
        return done ++ others
      else if isGap c && (!whole || word.isNone) then do
        let others ← inputWords whole n line none c rest
        return done ++ others
      else if c == '\'' || c == '"' then
        let body := rest.takeWhile fun d => d != c && d != '\n'
        match rest.drop body.length with
        | d :: rest =>
          if d == c then inputWords whole n line (some (body.reverse ++ word.getD [])) c rest
          else .error (unmatched c)
        | [] => .error (unmatched c)
      else inputWords whole n line (some (c :: word.getD [])) c rest
where
  /-- A blank. -/
  isGap (c : Char) : Bool := c == ' ' || c == '\t'
  /-- The complaint about a quotation without an end. -/
  unmatched (c : Char) : String :=
    "unmatched " ++ (if c == '"' then "double" else "single") ++
      " quote; by default quotes are special to xargs unless you use the -0 option"

/-- Groups of words: at most so many words, lines or characters in each. -/
def groups (words lines characters : Option Nat) (fixed : Nat) :
    List (Nat × String) → List (Nat × String) → List (List String)
  | group, [] => if group.isEmpty then [] else [group.map (·.2)]
  | group, (line, word) :: rest =>
    let size := fixed + (group.map fun (_, w) => w.utf8ByteSize + 1).foldl (· + ·) 0
    let fits := group.isEmpty ||
      (words.all (fun n => group.length < n) &&
        lines.all (fun n => ((group.map (·.1)).eraseDups.filter (· != line)).length < n) &&
        characters.all (fun n => size + word.utf8ByteSize + 1 ≤ n))
    if fits then groups words lines characters fixed (group ++ [(line, word)]) rest
    else group.map (·.2) :: groups words lines characters fixed [(line, word)] rest

/-- What has become of the commands so far. -/
structure Runs where
  output : List (Bool × List UInt8) := []
  files : FileSystem
  /-- a command has failed -/
  failed : Bool := false
  /-- no more commands are started, and this is the status -/
  stopped : Option Nat := none

/-- Starts one more command. -/
def Runs.next (s : Starter) (i : Invocation) (traced : Bool) (r : Runs) (words : List String) :
    Runs :=
  if r.stopped.isSome then r
  else
    let name := words.headD ""
    let trace := if traced then [(true, Text.encode (" ".intercalate words ++ "\n"))] else []
    match s.start { i with input := [], files := r.files } words with
    | .error e => { r with
        output := r.output ++ trace ++ [i.complaint (name ++ ": " ++ reason e)]
        stopped := some (statusOf e) }
    | .ok ended =>
      let output := r.output ++ trace ++ ended.output
      let after : Runs := { r with output, files := ended.files }
      match ended.status with
      | .exited 0 => after
      | .exited 255 => { after with
          output := output ++ [i.complaint (name ++ ": exited with status 255; aborting")]
          stopped := some 124 }
      | .exited _ => { after with failed := true }
      | .killed signal _ => { after with
          output := output ++
            [i.complaint (name ++ ": terminated by signal " ++ toString signal)]
          stopped := some 125 }

/-- Puts a text in the place of every occurrence of a mark. -/
def replaced (mark text : List Char) : Nat → List Char → List Char
  | 0, cs => cs
  | _, [] => []
  | n + 1, c :: rest =>
    if !mark.isEmpty && mark.isPrefixOf (c :: rest) then
      text ++ replaced mark text n ((c :: rest).drop mark.length)
    else c :: replaced mark text n rest

/-- Puts a word in the place of every occurrence of a mark in another. -/
def withWord (mark word other : String) : String :=
  String.ofList (replaced mark.toList word.toList other.length other.toList)

/-- A separator as it is asked for. -/
def separatorOf (text : String) : Char :=
  match text.toList with
  | ['\\', 'n'] => '\n'
  | ['\\', 't'] => '\t'
  | ['\\', '0'] => '\x00'
  | c :: _ => c
  | [] => '\n'

/-- The program `xargs`: starts a command with words that it reads. -/
def overInput : Caller := fun s i =>
  i.withOptions {
      alone := "0rtpx"
      valued := "nLIdEPsa"
      long := [("null", '0'), ("no-run-if-empty", 'r'), ("verbose", 't'), ("max-args", 'n'),
        ("max-lines", 'L'), ("replace", 'I'), ("delimiter", 'd'), ("max-procs", 'P'),
        ("max-chars", 's'), ("arg-file", 'a')] } (fun o =>
    let limit (flag : Char) : Except String (Option Nat) := match o.value? flag with
      | none => .ok none
      | some text => match Number.natural? text with
        | none => .error ("invalid number \"" ++ text ++ "\" for -" ++ flag.toString ++ " option")
        | some 0 => .error ("value 0 for -" ++ flag.toString ++ " option should be >= 1")
        | some n => .ok (some n)
    match limit 'n', limit 'L', limit 's' with
    | .error text, _, _ | _, .error text, _ | _, _, .error text => i.misused text
    | .ok words, .ok lines, .ok characters =>
      let command := if o.words.isEmpty then ["echo"] else o.words
      let mark := o.value? 'I'
      let source : Except IoError (List UInt8) := match o.value? 'a' with
        | some name => i.content name
        | none => .ok i.input
      match source with
      | .error e => i.complained ("Cannot open input file " ++
          Options.quoted ((o.value? 'a').getD "") ++ ": " ++ reason e)
      | .ok bytes =>
        let cs := Bytes.chars bytes
        let items : Except String (List (Nat × String)) :=
          match (if o.has '0' then some '\x00' else (o.value? 'd').map separatorOf) with
          | some c => .ok ((Bytes.linesBy c cs).1.zipIdx.map fun (word, k) => (k, Bytes.widen word))
          | none => inputWords mark.isSome (cs.length + 1) 0 none '\n' cs
        match items with
        | .error text => i.complained text
        | .ok items =>
          let items := match o.value? 'E' with
            | some stop => items.takeWhile fun (_, word) => word != stop
            | none => items
          let commands : List (List String) := match mark with
            | some mark => items.map fun (_, word) => command.map (withWord mark word)
            | none =>
              let fixed := (command.map fun w => w.utf8ByteSize + 1).foldl (· + ·) 0
              let all := groups words lines characters fixed [] items
              let all := if all.isEmpty && !o.has 'r' then [[]] else all
              all.map (command ++ ·)
          let runs := commands.foldl (Runs.next s i (o.has 't')) { files := i.files }
          { output := runs.output
            status := .exited (runs.stopped.getD (if runs.failed then 123 else 0))
            files := runs.files
            taken := i.input.length })
    true

end Starting

end Fleet.Shell
