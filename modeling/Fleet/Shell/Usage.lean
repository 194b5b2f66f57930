import Fleet.Shell.Builtin

namespace Fleet.Shell

/-! # How commands are called

How the commands of an extended shell read the options in front of their words, and what they say if
they are called in another way.
-/

namespace Usage

open Session

/-- How commands are called. -/
def forms : List (String × String) :=
  [("alias", "[-p] [name[=value] ... ]"),
    ("builtin", "[shell-builtin [arg ...]]"),
    ("cd", "[-L|[-P [-e]] [-@]] [dir]"),
    ("command", "[-pVv] command [arg ...]"),
    ("declare", "[-aAfFgiIlnrtux] [name[=value] ...] or declare -p [-aAfFilnrtux] [name ...]"),
    ("dirs", "[-clpv] [+N] [-N]"),
    ("enable", "[-a] [-dnps] [-f filename] [name ...]"),
    ("eval", "[arg ...]"),
    ("exec", "[-cl] [-a name] [command [argument ...]] [redirection ...]"),
    ("export", "[-fn] [name[=value] ...] or export -p"),
    ("getopts", "optstring name [arg ...]"),
    ("hash", "[-lr] [-p pathname] [-dt] [name ...]"),
    ("jobs", "[-lnprs] [jobspec ...] or jobs -x command [args]"),
    ("kill", "[-s sigspec | -n signum | -sigspec] pid | jobspec ... or kill -l [sigspec]"),
    ("local", "[option] name[=value] ..."),
    ("mapfile", "[-d delim] [-n count] [-O origin] [-s count] [-t] [-u fd] [-C callback] " ++
      "[-c quantum] [array]"),
    ("popd", "[-n] [+N | -N]"),
    ("printf", "[-v var] format [arguments]"),
    ("pushd", "[-n] [+N | -N | dir]"),
    ("pwd", "[-LP]"),
    ("read", "[-ers] [-a array] [-d delim] [-i text] [-n nchars] [-N nchars] [-p prompt] " ++
      "[-t timeout] [-u fd] [name ...]"),
    ("readarray", "[-d delim] [-n count] [-O origin] [-s count] [-t] [-u fd] [-C callback] " ++
      "[-c quantum] [array]"),
    ("readonly", "[-aAf] [name[=value] ...] or readonly -p"),
    ("set", "[-abefhkmnptuvxBCEHPT] [-o option-name] [--] [-] [arg ...]"),
    ("shopt", "[-pqsu] [-o] [optname ...]"),
    ("source", "filename [arguments]"),
    (".", ". filename [arguments]"),
    ("times", ""),
    ("trap", "[-lp] [[arg] signal_spec ...]"),
    ("type", "[-afptP] name [name ...]"),
    ("typeset", "[-aAfFgiIlnrtux] name[=value] ... or typeset -p [-aAfFilnrtux] [name ...]"),
    ("ulimit", "[-SHabcdefiklmnpqrstuvxPRT] [limit]"),
    ("umask", "[-p] [-S] [mode]"),
    ("unalias", "[-a] name [name ...]"),
    ("unset", "[-f] [-v] [-n] [name ...]"),
    ("wait", "[-fn] [-p var] [id ...]")]

/-- Tells how a command is called; the status of a command that was called in another way. -/
def told (name : String) : Act Nat := do
  let form := (forms.lookup name).getD ""
  let text := name ++ ": usage: " ++ if name = "." then form
    else if form.isEmpty then name else name ++ " " ++ form
  let _ ← write 2 (Text.encode (text ++ "\n"))
  return 2

/-- Tells that a command has no such option. -/
def unknown (name : String) (sign letter : Char) : Act Nat := do
  warn (String.ofList [sign, letter] ++ ": invalid option")
  told name

/-- The options in front of the words of a command, and the words; a letter with a colon behind it
in `known` takes a value.  There are none if something is wrong with them. -/
def options (name known : String) (args : List String) :
    Act (Option (List (Char × String) × List String)) :=
  go (args.length + 1) [] args
where
  /-- Reads on behind some options, the latest first. -/
  go : Nat → List (Char × String) → List String →
      Act (Option (List (Char × String) × List String))
    | 0, found, args => return some (found.reverse, args)
    | _, found, [] => return some (found.reverse, [])
    | n + 1, found, word :: rest =>
      match word.toList with
      | ['-', '-'] => return some (found.reverse, rest)
      | '-' :: c :: more => do
        match ← letters found (c :: more) rest with
        | some (found, rest) => go n found rest
        | none => return none
      | _ => return some (found.reverse, word :: rest)
  /-- Reads the letters of one word. -/
  letters : List (Char × String) → List Char → List String →
      Act (Option (List (Char × String) × List String))
    | found, [], rest => return some (found, rest)
    | found, c :: more, rest => do
      match if c == ':' then [] else known.toList.dropWhile (· != c) with
      | _ :: ':' :: _ =>
        match more, rest with
        | [], value :: rest => return some ((c, value) :: found, rest)
        | [], [] =>
          warn ("-" ++ c.toString ++ ": option requires an argument")
          let _ ← told name
          return none
        | more, rest => return some ((c, String.ofList more) :: found, rest)
      | _ :: _ => letters ((c, "") :: found) more rest
      | [] =>
        let _ ← unknown name '-' c
        return none

/-- Gives up a line of commands, because a command has too many words. -/
def tooMany {α : Type} : Act α := do
  warn "too many arguments"
  done 1
  throw .abandon

/-- The number that a word has to be. -/
def number? (word : String) : Act (Option Int) := do
  match Number.ofText? 10 word with
  | some n => return some n
  | none =>
    warn (word ++ ": numeric argument required")
    return none

/-- Tells that a word is no name. -/
def noName (word : String) : Act Unit := warn ("\x60" ++ word ++ "': not a valid identifier")

/-- Writes to the output; a stream that cannot be written to is told. -/
def print (bytes : List UInt8) : Act Nat := do
  match ← write 1 bytes with
  | none => return 0
  | some e =>
    warn ("write error: " ++ reason e)
    return 1

/-- Writes lines to the output. -/
def printLines (lines : List String) : Act Nat :=
  print (lines.flatMap fun line => Text.encode (line ++ "\n"))

end Usage

end Fleet.Shell
