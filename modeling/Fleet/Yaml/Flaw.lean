namespace Fleet.Yaml

/-! # Flaws

The ways in which a text can fail to be a YAML document.
-/

/-- Why a text is not a YAML document. -/
inductive Flaw where
  /-- a control character -/
  | forbiddenCharacter
  /-- no token begins like this -/
  | unstartable
  /-- a tab in the place of indentation -/
  | tabIndentation
  /-- a line of a block mapping is no key: there is no `:` behind it -/
  | missingColon
  /-- an entry, key or value of a block collection where none may begin -/
  | misplacedIndicator
  /-- a `:` in the middle of a plain scalar of a flow collection -/
  | unexpectedColon
  /-- a quoted scalar without its closing quote -/
  | unclosedQuote
  /-- a document begins or ends inside a quoted scalar -/
  | documentMarkInQuote
  /-- an escape that means nothing -/
  | unknownEscape
  /-- an escape that names no character -/
  | invalidCodePoint
  /-- the line that begins a block scalar says something else besides -/
  | badBlockHeader
  | badDirective
  | badTag
  | badAnchor
  /-- a token that may not follow the one before it -/
  | unexpectedToken
  /-- a tag handle that no directive defines -/
  | undefinedHandle
  /-- an alias before its anchor -/
  | unknownAnchor
  /-- something behind the document -/
  | furtherDocument
  deriving DecidableEq, Repr, Inhabited

end Fleet.Yaml
