import Fleet.Shell.Command

namespace Fleet.Shell

/-! # The text of a script

A script is read character by character: a backslash before the end of a line joins the line with
the next one, and the lines are counted.  The lines of a here-document are taken out of the text as
soon as its mark has been read, so that what is left reads on behind the mark.
-/

/-- A word or a sign of a script. -/
inductive Token where
  | endOfText
  | newline
  | semicolon
  | ampersand
  | andIf
  | orIf
  | bar
  /-- what is behind it reads output and errors -/
  | barBoth
  | opened
  | closed
  | caseEnd (passage : Passage)
  /-- the sign of a redirection; `tabs` says that tabs in front of the lines are dropped -/
  | redirect (stream : Nat) (kind : Redirection) (tabs : Bool)
  | keyword (text : String)
  | word (w : Word)

namespace Token

/-- How a token is called in messages. -/
def name : Token → String
  | endOfText => "end of file"
  | newline => "newline"
  | semicolon => "\";\""
  | ampersand => "\"&\""
  | andIf => "\"&&\""
  | orIf => "\"||\""
  | bar | barBoth => "\"|\""
  | opened => "\"(\""
  | closed => "\")\""
  | caseEnd _ => "\";;\""
  | redirect _ _ _ => "redirection"
  | keyword text => "\"" ++ text ++ "\""
  | word _ => "word"

/-- How a token is written. -/
def sign : Token → String
  | endOfText => ""
  | newline => "newline"
  | semicolon => ";"
  | ampersand => "&"
  | andIf => "&&"
  | orIf => "||"
  | bar => "|"
  | barBoth => "|&"
  | opened => "("
  | closed => ")"
  | caseEnd .finish => ";;"
  | caseEnd .fall => ";&"
  | caseEnd .look => ";;&"
  | redirect _ kind tabs =>
    match kind with
    | .read => "<"
    | .write => ">"
    | .overwrite => ">|"
    | .append => ">>"
    | .readWrite => "<>"
    | .duplicate true => "<&"
    | .duplicate false => ">&"
    | .here => if tabs then "<<-" else "<<"
    | .line => "<<<"
    | .both false => "&>"
    | .both true => "&>>"
  | keyword text => text
  | word w => String.ofList w.characters

/-- The words that have a meaning where a command may begin. -/
def keywords : List String :=
  ["!", "case", "do", "done", "elif", "else", "esac", "fi", "for", "if", "in", "then", "until",
    "while", "\x7b", "\x7d"]

/-- The words that have such a meaning for an extended shell only. -/
def furtherKeywords : List String := ["[[", "function", "time"]

/-- The token cannot begin a command but may stand behind one. -/
def endsList : Token → Bool
  | endOfText | closed | caseEnd _ => true
  | keyword text =>
    ["do", "done", "elif", "else", "esac", "fi", "then", "\x7d"].contains text
  | _ => false

/-- The text is over. -/
def isEnd : Token → Bool
  | endOfText => true
  | _ => false

/-- The token is a certain keyword. -/
def isKeyword (text : String) : Token → Bool
  | keyword k => k == text
  | _ => false

end Token

/-- What stands where it cannot stand, or does not stand where it has to. -/
inductive Trouble where
  /-- a token -/
  | token (sign : String)
  /-- the end of what was opened by a sign -/
  | missing (sign : String)
  /-- the end of the script -/
  | ended
  /-- what is wrong is said in words, line by line -/
  | words (lines : List String)
  | other
  deriving DecidableEq, Repr

/-- What is wrong with a script, and in which line. -/
structure Flaw where
  line : Nat
  text : String
  trouble : Trouble := .other
  deriving DecidableEq, Repr

/-- A script that is being read. -/
structure Source where
  rest : List Char
  line : Nat := 1
  /-- how many lines were taken out behind the current one -/
  owed : Nat := 0
  /-- a token that was read too early -/
  pushed : Option Token := none
  aliases : List (String × String) := []
  /-- the aliases that are being read, each with how much of the text is left behind it -/
  active : List (String × Nat) := []
  /-- it is for an extended shell -/
  extended : Bool := false
  /-- patterns may have groups -/
  grouping : Bool := false
  /-- what is odd about the script, each with its line -/
  notes : List (Nat × String) := []

/-- A reader takes from a script, or finds a flaw. -/
abbrev Reader := EStateM Flaw Source

namespace Source

/-- The script without what is passed up to `rest`; `passed` lines end in it. -/
def moveTo (s : Source) (rest : List Char) (passed : Nat) : Source :=
  { s with
    rest
    line := s.line + passed + (if passed = 0 then 0 else s.owed)
    owed := if passed = 0 then s.owed else 0 }

/-- A text without the joined ends of lines at its start, and how many there are. -/
def withoutJoins : List Char → Nat × List Char
  | '\\' :: '\n' :: rest =>
    let (n, rest) := withoutJoins rest
    (n + 1, rest)
  | rest => (0, rest)

/-- A text without the blanks and the comment at its start, and how many lines end in them. -/
def withoutBlanks : Bool → List Char → Nat × List Char
  | true, '\n' :: rest => (0, '\n' :: rest)
  | true, _ :: rest => withoutBlanks true rest
  | false, '\\' :: '\n' :: rest =>
    let (n, rest) := withoutBlanks false rest
    (n + 1, rest)
  | false, c :: rest =>
    if c == '#' then withoutBlanks true rest
    else if c == ' ' || c == '\t' then withoutBlanks false rest
    else (0, c :: rest)
  | _, [] => (0, [])

/-- Takes the lines of a here-document, up to its mark or the end of the text: what they hold, how
many there are with the mark, and the text behind them. -/
def documentLines (mark : List Char) (tabs : Bool) :
    Nat → Nat → List Char → List Char → List Char × Nat × List Char
  | 0, count, taken, cs => (taken, count, cs)
  | n + 1, count, taken, cs =>
    if cs.isEmpty then (taken, count, [])
    else
      let raw := cs.takeWhile (· != '\n')
      let line := if tabs then raw.dropWhile (· == '\t') else raw
      let after := cs.drop raw.length
      if line == mark then (taken, count + 1, after.drop 1)
      else
        documentLines mark tabs n (count + 1) (taken ++ line ++ after.take 1) (after.drop 1)

/-- Takes a here-document out of the text behind the current line. -/
def takeDocument (s : Source) (mark : List Char) (tabs : Bool) : List Char × Source :=
  let line := s.rest.takeWhile (· != '\n')
  let behind := s.rest.drop line.length
  let (body, count, after) :=
    documentLines mark tabs (behind.length + 1) 0 [] (behind.drop 1)
  let isWhole := count = body.count '\n' + 1
  let note := "here-document at line " ++ toString s.line ++
    " delimited by end-of-file (wanted \x60" ++ String.ofList mark ++ "')"
  (body, { s with
    rest := line ++ behind.take 1 ++ after
    owed := s.owed + count
    notes := if isWhole then s.notes else (s.line + s.owed + count, note) :: s.notes })

/-- A text that is read by itself in the place of this one. -/
def within (s : Source) (text : List Char) : Source :=
  { rest := text, line := s.line, aliases := s.aliases, extended := s.extended,
    grouping := s.grouping }

end Source

namespace Script

/-- Gives up on a script. -/
def refuse {α : Type} (text : String) (trouble : Trouble := .other) : Reader α :=
  fun s => .error ⟨s.line, text, trouble⟩ s

/-- Gives up on a script because of something that began in a line. -/
def refuseFrom {α : Type} (line : Nat) (text : String) (trouble : Trouble) : Reader α :=
  fun s => .error ⟨if s.extended then line else s.line, text, trouble⟩ s

/-- Reads something, or goes back to where it began if it is not there. -/
def attempt {α : Type} (reader : Reader (Option α)) : Reader (Option α) := fun s =>
  match reader s with
  | .ok (some a) t => .ok (some a) t
  | .ok none _ => .ok none s
  | .error e t => .error e t

/-- The next character, which is not taken; ends of lines that are joined are passed. -/
def peek : Reader (Option Char) := fun s =>
  let (n, rest) := Source.withoutJoins s.rest
  .ok rest.head? (s.moveTo rest n)

/-- Takes the next character as it stands. -/
def takeRaw : Reader (Option Char) := fun s =>
  match s.rest with
  | [] => .ok none s
  | c :: rest => .ok (some c) (s.moveTo rest (if c == '\n' then 1 else 0))

/-- Takes the next character; ends of lines that are joined are passed. -/
def take : Reader (Option Char) := do
  let _ ← peek
  takeRaw

/-- Takes characters up to one that ends a quotation, which is passed. -/
def takeUpTo (stop : Char) : Reader (List Char) := fun s =>
  let body := s.rest.takeWhile (· != stop)
  let after := s.moveTo (s.rest.drop body.length) (body.count '\n')
  match after.rest with
  | [] => refuseFrom s.line "Unterminated quoted string" (.missing stop.toString) after
  | _ :: rest => .ok body { after with rest }

/-- The characters that end a word. -/
def endsWord (c : Char) : Bool := [' ', '\t', '\n', ';', '&', '|', '<', '>', '(', ')'].contains c

/-- The parameters that have a sign for a name. -/
def isSpecial (c : Char) : Bool := ['!', '#', '$', '*', '-', '?', '@'].contains c

/-- The name of a parameter at the start of a text: a name, a number or a sign. -/
def parameterName (cs : List Char) : Option (List Char) :=
  match cs with
  | [] => none
  | c :: _ =>
    if c.isDigit then some (cs.takeWhile Char.isDigit)
    else if Word.isNameChar c then some (cs.takeWhile Word.isNameChar)
    else if isSpecial c then some [c]
    else none

/-- The use of a parameter between braces, behind its name. -/
def use (cs : List Char) : Use × List Char :=
  match cs with
  | '\x7d' :: _ => (.value, cs)
  -- this brace is a sign of its own: the word up to the next one is put behind the value
  | ':' :: '\x7d' :: rest => (.value, rest)
  | ':' :: '-' :: rest => (.orElse true, rest)
  | '-' :: rest => (.orElse false, rest)
  | ':' :: '=' :: rest => (.assign true, rest)
  | '=' :: rest => (.assign false, rest)
  | ':' :: '+' :: rest => (.instead true, rest)
  | '+' :: rest => (.instead false, rest)
  | ':' :: '?' :: rest => (.require true, rest)
  | '?' :: rest => (.require false, rest)
  | '#' :: '#' :: rest => (.dropFront true, rest)
  | '#' :: rest => (.dropFront false, rest)
  | '%' :: '%' :: rest => (.dropEnd true, rest)
  | '%' :: rest => (.dropEnd false, rest)
  | rest => (.unknown, rest)

/-- A parameter between braces: its name, its use and what stands behind them. -/
def parameterUse (cs : List Char) : String × Use × List Char :=
  let named (cs : List Char) : String × Use × List Char :=
    match parameterName cs with
    | some name =>
      let (u, rest) := use (cs.drop name.length)
      (String.ofList name, u, rest)
    | none => ("", .unknown, cs)
  match cs with
  | '#' :: rest =>
    match rest with
    | '\x7d' :: _ => ("#", .value, rest)
    | ':' :: '\x7d' :: _ => ("#", .unknown, rest)
    | c :: after =>
      if isSpecial c then
        match after with
        | '\x7d' :: _ => (c.toString, .length, after)
        | _ => named cs
      else
        match parameterName rest with
        | some name =>
          let after := rest.drop name.length
          (String.ofList name, if after.head? == some '\x7d' then .length else .unknown, after)
        | none => named cs
    | [] => ("#", .unknown, [])
  | _ => named cs

/-- The sign of a redirection at the start of a text, and what stands behind it. -/
def redirection? (stream : Option Nat) (cs : List Char) : Option (Token × List Char) :=
  let input (kind : Redirection) (tabs : Bool) : Token := .redirect (stream.getD 0) kind tabs
  let output (kind : Redirection) : Token := .redirect (stream.getD 1) kind false
  match cs with
  | '<' :: '<' :: '-' :: rest => some (input .here true, rest)
  | '<' :: '<' :: rest => some (input .here false, rest)
  | '<' :: '&' :: rest => some (input (.duplicate true) false, rest)
  | '<' :: '>' :: rest => some (input .readWrite false, rest)
  | '<' :: rest => some (input .read false, rest)
  | '>' :: '>' :: rest => some (output .append, rest)
  | '>' :: '&' :: rest => some (output (.duplicate false), rest)
  | '>' :: '|' :: rest => some (output .overwrite, rest)
  | '>' :: rest => some (output .write, rest)
  | _ => none

/-- The sign at the start of a text, and what stands behind it. -/
def sign? (cs : List Char) : Option (Token × List Char) :=
  match cs with
  | [] => some (.endOfText, [])
  | '\n' :: rest => some (.newline, rest)
  | '&' :: '&' :: rest => some (.andIf, rest)
  | '&' :: rest => some (.ampersand, rest)
  | '|' :: '|' :: rest => some (.orIf, rest)
  | '|' :: rest => some (.bar, rest)
  | ';' :: ';' :: rest => some (.caseEnd .finish, rest)
  | ';' :: rest => some (.semicolon, rest)
  | '(' :: rest => some (.opened, rest)
  | ')' :: rest => some (.closed, rest)
  | d :: c :: rest =>
    if d.isDigit && (c == '<' || c == '>') then
      redirection? (some (d.toNat - '0'.toNat)) (c :: rest)
    else redirection? none cs
  | cs => redirection? none cs

/-- The sign at the start of a text that is for an extended shell, and what stands behind it. -/
def furtherSign? (cs : List Char) : Option (Token × List Char) :=
  let input (stream : Option Nat) (rest : List Char) : Option (Token × List Char) :=
    some (.redirect (stream.getD 0) .line false, rest)
  match cs with
  | '&' :: '>' :: '>' :: rest => some (.redirect 1 (.both true) false, rest)
  | '&' :: '>' :: rest => some (.redirect 1 (.both false) false, rest)
  | '|' :: '&' :: rest => some (.barBoth, rest)
  | ';' :: ';' :: '&' :: rest => some (.caseEnd .look, rest)
  | ';' :: '&' :: rest => some (.caseEnd .fall, rest)
  | '<' :: '<' :: '<' :: rest => input none rest
  | '<' :: '(' :: _ | '>' :: '(' :: _ => none
  | c :: _ =>
    if c.isDigit then
      let digits := cs.takeWhile Char.isDigit
      let rest := cs.drop digits.length
      let stream := some (digits.foldl (fun n d => 10 * n + (d.toNat - '0'.toNat)) 0)
      match rest with
      | '<' :: '<' :: '<' :: rest => input stream rest
      | '<' :: '(' :: _ | '>' :: '(' :: _ => none
      | _ => redirection? stream rest
    else sign? cs
  | cs => sign? cs

/-- The body of a substitution between backquotes, as it reads without the backslashes that are
meant for them. -/
def unquoteBody (quoted : Bool) : List Char → List Char → Option (List Char × List Char)
  | _, [] => none
  | taken, '\x60' :: rest => some (taken.reverse, rest)
  | taken, '\\' :: c :: rest =>
    if c == '\n' then unquoteBody quoted taken rest
    else if c == '\\' || c == '\x60' || c == '$' || (quoted && c == '"') then
      unquoteBody quoted (c :: taken) rest
    else unquoteBody quoted (c :: '\\' :: taken) rest
  | taken, c :: rest => unquoteBody quoted (c :: taken) rest

end Script

end Fleet.Shell
