namespace Fleet.Shell

/-! # Commands of a shell

The commands of a shell, as they are after reading and before running.  There are two shells: one
knows what every shell knows, and the extended one also has lists of values, numbers in commands,
and more ways to write words.
-/

/-- Where in a value the piece stands that is replaced. -/
inductive Place where
  | first
  | everywhere
  | front
  | back
  deriving DecidableEq, Repr

/-- What becomes of a parameter that is put into a word.  `orEmpty` says that an empty value counts
as none. -/
inductive Use where
  /-- its value, and a word behind it -/
  | value
  /-- how long its value is -/
  | length
  /-- a word in its place if it has no value -/
  | orElse (orEmpty : Bool)
  /-- the same, and the parameter gets that value -/
  | assign (orEmpty : Bool)
  /-- a word in its place if it has a value -/
  | instead (orEmpty : Bool)
  /-- an error if it has no value -/
  | require (orEmpty : Bool)
  /-- its value without what a pattern matches at the start -/
  | dropFront (longest : Bool)
  /-- its value without what a pattern matches at the end -/
  | dropEnd (longest : Bool)
  /-- some characters of its value, or some of its values: from a number on, and how many -/
  | slice
  /-- its value with a text in the place of what a pattern matches -/
  | replace (place : Place)
  /-- its value in large or in small letters, where a pattern matches: the first, or all of them -/
  | letters (large all : Bool)
  /-- what a letter says of it -/
  | told (letter : Char)
  /-- the keys of its values -/
  | keys
  /-- nothing that a shell knows -/
  | unknown
  deriving DecidableEq, Repr

/-- The word behind the use is a pattern, which quotes around the whole do not quote. -/
def Use.isPattern : Use → Bool
  | dropFront _ | dropEnd _ | replace _ | letters _ _ => true
  | _ => false

/-- What a redirection does. -/
inductive Redirection where
  | read
  | write
  /-- writes even if files are not to be overwritten -/
  | overwrite
  | append
  | readWrite
  /-- another name for a stream that is open; `input` if it is meant for reading -/
  | duplicate (input : Bool)
  /-- the word itself is read -/
  | here
  /-- the word itself is read as a line -/
  | line
  /-- output and errors are written -/
  | both (appends : Bool)
  deriving DecidableEq, Repr

/-- How it goes on behind a case that was run. -/
inductive Passage where
  | finish
  /-- with the commands of the next case -/
  | fall
  /-- with the patterns of the next case -/
  | look
  deriving DecidableEq, Repr

mutual

/-- A piece of a word. -/
inductive Part where
  /-- characters; no characters that are quoted say that there is a word -/
  | text (characters : List Char) (quoted : Bool)
  | parameter (name : String) (use : Use) (argument : List Part) (quoted : Bool)
  /-- a parameter in one of the ways that only an extended shell knows: with a key, or the one whose
  name is its value -/
  | element (name : String) (key : Option Key) (indirect : Bool) (use : Use)
      (arguments : List (List Part)) (quoted : Bool)
  /-- the names of the variables that begin with a text -/
  | names (start : String) (joined quoted : Bool)
  | substitution (body : Command) (quoted : Bool)
  /-- a stream on which commands write, or from which they read -/
  | stream (body : Command) (reads : Bool)
  | arithmetic (body : List Part) (quoted : Bool)
  /-- a place in a list that is given a value -/
  | target (name : String) (key : List Part) (adds : Bool)
  /-- the values that a list is given -/
  | list (items : List (List Part))

/-- Which of the values of a list are meant. -/
inductive Key where
  | at (subscript : List Part)
  | all (joined : Bool)

/-- A redirection of a stream. -/
inductive Redirect where
  | mk (stream : Nat) (kind : Redirection) (target : List Part)

/-- A variable is given a value, or something is added to the one it has. -/
inductive Assignment where
  | mk (name : String) (key : Option (List Part)) (adds : Bool) (value : List Part)

/-- A question about words. -/
inductive Question where
  | holds (word : List Part)
  | about (sign : String) (word : List Part)
  | between (sign : String) (left right : List Part)
  | no (q : Question)
  | both (p q : Question)
  | either (p q : Question)

/-- A command; `line` is the line of the script where it begins. -/
inductive Command where
  | nothing
  | simple (line : Nat) (assignments : List Assignment) (words : List (List Part))
      (redirects : List Redirect)
  | redirected (line : Nat) (body : Command) (redirects : List Redirect)
  | apart (line : Nat) (body : Command)
  | background (line : Nat) (body : Command)
  | sequence (first second : Command)
  | both (first second : Command)
  | either (first second : Command)
  | negate (body : Command)
  | pipe (commands : List Command)
  | branch (condition yes no : Command)
  | loop (condition body : Command) (negated : Bool)
  | forEach (line : Nat) (name : String) (words : List (List Part)) (body : Command)
  | count (line : Nat) (first test next : List Part) (body : Command)
  | choose (line : Nat) (word : List Part) (cases : List (List (List Part) × Command × Passage))
  | calculate (line : Nat) (text : List Part)
  | ask (line : Nat) (question : Question)
  | timed (body : Command)
  | define (line : Nat) (name : String) (body : Command)

end

/-- A word: its pieces stand together without a gap. -/
abbrev Word := List Part

instance : Inhabited Command := ⟨.nothing⟩

namespace Question

/-- The signs that ask about one word. -/
def unarySigns : List String :=
  ["-a", "-b", "-c", "-d", "-e", "-f", "-g", "-h", "-k", "-n", "-o", "-p", "-r", "-s", "-t", "-u",
    "-v", "-w", "-x", "-z", "-G", "-L", "-N", "-O", "-R", "-S"]

/-- The signs that ask about two words. -/
def binarySigns : List String :=
  ["=", "==", "!=", "<", ">", "-eq", "-ne", "-lt", "-le", "-gt", "-ge", "-nt", "-ot", "-ef"]

end Question

namespace Word

/-- The characters of a word that is one unquoted text. -/
def literal? : Word → Option (List Char)
  | [.text cs false] => some cs
  | _ => none

/-- The characters that may stand in a name. -/
def isNameChar (c : Char) : Bool := c.isAlphanum || c == '_'

/-- A text is a name. -/
def isName (cs : List Char) : Bool :=
  match cs with
  | [] => false
  | c :: _ => !c.isDigit && cs.all isNameChar

/-- What a word says that has the form of an assignment; only an extended shell adds to values. -/
def assignment? (extended : Bool) : Word → Option Assignment
  | .text cs false :: rest =>
    let name := cs.takeWhile isNameChar
    let given (adds : Bool) (value : List Char) : Option Assignment :=
      if isName name then
        some (.mk (String.ofList name) none adds
          (if value.isEmpty then rest else .text value false :: rest))
      else none
    match cs.drop name.length with
    | '=' :: value => given false value
    | '+' :: '=' :: value => if extended then given true value else none
    | _ => none
  | .target name key adds :: rest => some (.mk name (some key) adds rest)
  | _ => none

/-- Joins neighbouring texts that are quoted alike. -/
def joined : Word → Word
  | [] => []
  | .text a q :: rest =>
    match joined rest with
    | .text b r :: others =>
      if q == r then .text (a ++ b) q :: others else .text a q :: .text b r :: others
    | others => .text a q :: others
  | part :: rest => part :: joined rest

/-- The characters of a word as they are written, without quotes. -/
def characters (word : Word) : List Char :=
  word.flatMap fun
    | .text cs _ => cs
    | .parameter name _ _ _ => '$' :: name.toList
    | .target name key adds => name.toList ++ ['['] ++ texts key ++ [']'] ++
        if adds then ['+', '='] else ['=']
    | _ => []
where
  /-- The texts among the pieces. -/
  texts (word : Word) : List Char :=
    word.flatMap fun
      | .text cs _ => cs
      | _ => []

/-- A part of a word is quoted. -/
def hasQuotes (word : Word) : Bool :=
  word.any fun
    | .text _ quoted => quoted
    | _ => false

end Word

end Fleet.Shell
