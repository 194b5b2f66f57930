namespace Fleet.Text

/-! # Shell words

A command line is shown with every word written so that a shell reads it back as one word: a word
with a character that means something to a shell stands between single quotes, and a single quote
inside it is written `'\''`.
-/

/-- The characters for which a word is put between quotes. -/
def isShellSpecial (c : Char) : Bool :=
  ['|', '&', ';', '<', '>', '(', ')', '$', '\x60', '\\', '"', ' ', '\t', '*', '?', '[', '#', '~',
    '=', '%', '\n', '\''].contains c

/-- The characters of a word between single quotes. -/
def quotedBody : List Char → List Char
  | [] => []
  | '\'' :: cs => '\'' :: '\\' :: '\'' :: '\'' :: quotedBody cs
  | c :: cs => c :: quotedBody cs

/-- A word as a shell reads it back. -/
def quoteWord (word : List Char) : List Char :=
  if word.isEmpty then ['\'', '\'']
  else if word.any isShellSpecial then '\'' :: (quotedBody word ++ ['\''])
  else word

/-- A command line as it is shown: every word quoted, one space between two. -/
def formatCommand (command : String) (args : List String) : String :=
  " ".intercalate ((command :: args).map fun word => String.ofList (quoteWord word.toList))

end Fleet.Text
