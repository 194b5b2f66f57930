import Fleet.Shell.Command

namespace Fleet.Shell

/-! # Commands as they are written

The text of a simple command, as it reads in a script.  What has been quoted stands between double
quotes, or single ones if it would mean something else between double ones.
-/

namespace Word

/-- A text between quotes. -/
def quotedText (cs : List Char) : String :=
  let isOdd := cs.any fun c => c == '$' || c == '"' || c == '\\' || c == '\x60'
  if isOdd && !cs.contains '\'' then "'" ++ String.ofList cs ++ "'"
  else "\"" ++ String.ofList cs ++ "\""

/-- A piece stands between quotes. -/
def isQuotedPart : Part → Bool
  | .text _ quoted | .parameter _ _ _ quoted | .element _ _ _ _ _ quoted | .names _ _ quoted
  | .substitution _ quoted | .arithmetic _ quoted => quoted
  | _ => false

/-- The sign of what becomes of a parameter. -/
def signOf : Use → String
  | .orElse orEmpty => if orEmpty then ":-" else "-"
  | .assign orEmpty => if orEmpty then ":=" else "="
  | .instead orEmpty => if orEmpty then ":+" else "+"
  | .require orEmpty => if orEmpty then ":?" else "?"
  | .dropFront longest => if longest then "##" else "#"
  | .dropEnd longest => if longest then "%%" else "%"
  | .slice => ":"
  | .replace .first => "/"
  | .replace .everywhere => "//"
  | .replace .front => "/#"
  | .replace .back => "/%"
  | .letters large all => (if large then "^" else ",") ++ (if all then (if large then "^" else ",")
    else "")
  | .told letter => "@" ++ letter.toString
  | _ => ""

/-- A piece as it is written, without the quotes around it. -/
def bare : Part → String
  | .text cs _ => String.ofList cs
  | .parameter name .value [] _ => "$" ++ name
  | .parameter name .length _ _ => "$\x7b#" ++ name ++ "\x7d"
  | .parameter name use argument _ =>
    "$\x7b" ++ name ++ signOf use ++ String.ofList (characters argument) ++ "\x7d"
  | .element name key indirect use arguments _ =>
    let key := match key with
      | none => ""
      | some (.all joined) => if joined then "[*]" else "[@]"
      | some (.at word) => "[" ++ String.ofList (characters word) ++ "]"
    "$\x7b" ++ (if use == .length then "#" else if indirect then "!" else "") ++ name ++ key ++
      signOf use ++ "/".intercalate (arguments.map fun word => String.ofList (characters word)) ++
      "\x7d"
  | .names start joined _ => "$\x7b!" ++ start ++ (if joined then "*" else "@") ++ "\x7d"
  | .substitution _ _ => "$(...)"
  | .stream _ reads => if reads then ">(...)" else "<(...)"
  | .arithmetic body _ => "$((" ++ String.ofList (characters body) ++ "))"
  | .target name key adds =>
    name ++ "[" ++ String.ofList (characters key) ++ "]" ++ if adds then "+=" else "="
  | .list _ => "(...)"

/-- A word as it is written. -/
def written : Word → String
  | [] => ""
  | p :: rest =>
    if isQuotedPart p then
      match p with
      | .text cs _ => quotedText cs ++ written rest
      | p => "\"" ++ bare p ++ "\"" ++ written rest
    else bare p ++ written rest

/-- A word of a list as it is written. -/
def item (word : Word) : String :=
  match word with
  | .target name key adds :: value => bare (.target name key adds) ++ written value
  | word => written word

end Word

/-- An assignment as it is written. -/
def Assignment.written : Assignment → String
  | .mk name key adds value =>
    let place := match key with
      | some word => "[" ++ String.ofList (Word.characters word) ++ "]"
      | none => ""
    name ++ place ++ (if adds then "+=" else "=") ++ match value with
      | [.list words] => "(" ++ " ".intercalate (words.map Word.item) ++ ")"
      | value => Word.written value

/-- A redirection as it is written. -/
def Redirect.written : Redirect → String
  | .mk stream kind target =>
    let number (usual : Nat) : String := if stream = usual then "" else toString stream
    let word := Word.written target
    match kind with
    | .read => number 0 ++ "< " ++ word
    | .write => number 1 ++ "> " ++ word
    | .overwrite => number 1 ++ ">| " ++ word
    | .append => number 1 ++ ">> " ++ word
    | .readWrite => number 0 ++ "<> " ++ word
    | .duplicate true => number 0 ++ "<&" ++ word
    | .duplicate false => number 1 ++ ">&" ++ word
    | .here => number 0 ++ "<<"
    | .line => number 0 ++ "<<< " ++ word
    | .both false => "&> " ++ word
    | .both true => "&>> " ++ word

/-- A simple command as it is written; nothing is said of other commands. -/
def Command.written : Command → String
  | .simple _ assignments words redirects =>
    " ".intercalate (assignments.map Assignment.written ++ words.map Word.written ++
      redirects.map Redirect.written)
  | _ => ""

end Fleet.Shell
