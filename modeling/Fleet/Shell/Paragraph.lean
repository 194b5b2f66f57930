import Fleet.Shell.Bytes
import Fleet.Shell.Invocation

namespace Fleet.Shell

/-! # Paragraphs

The program `fmt`, which breaks paragraphs into lines.  Every way to break a paragraph has a cost:
it grows with the difference of the lines to the length that is aimed at and to each other, and it
depends on the words around a break.  The cheapest way is found from the end of the paragraph to
its beginning.
-/

namespace Paragraph

/-- A word, and what is behind it. -/
structure Word where
  text : List Char
  space : Nat := 0
  opens : Bool := false
  /-- it ends with a sign -/
  isMarked : Bool := false
  /-- it ends with the sign of the end of a sentence -/
  hasPeriod : Bool := false
  /-- it ends a sentence -/
  isLast : Bool := false
  deriving DecidableEq, Repr

/-- How paragraphs are broken. -/
structure Style where
  width : Nat
  goal : Nat
  /-- the first two lines have indents of their own -/
  crown : Bool := false
  /-- only paragraphs whose first line has another indent -/
  tagged : Bool := false
  /-- lines are only split -/
  splits : Bool := false
  /-- one space between words, two behind sentences -/
  uniform : Bool := false
  /-- what all lines begin with, without the blanks around it -/
  lead : List Char := []
  /-- blanks in front of it -/
  leadIndent : Nat := 0
  /-- its length with the blanks behind it -/
  leadLength : Nat := 0

/-- A place in a text: what is left, the column, whether there have been tabs, and the column at
which the lead of the line would stand. -/
structure Place where
  rest : List Char
  column : Nat := 0
  tabs : Bool := false
  indent : Nat := 0

/-- Passes blanks. -/
def skipBlanks (column : Nat) (tabs : Bool) : List Char → List Char × Nat × Bool
  | ' ' :: rest => skipBlanks (column + 1) tabs rest
  | '\t' :: rest => skipBlanks ((column / 8 + 1) * 8) true rest
  | rest => (rest, column, tabs)

/-- Passes the characters of a lead; whether all of them are there. -/
def skipLead : List Char → List Char → Nat × List Char × Bool
  | [], rest => (0, rest, true)
  | c :: lead, d :: rest =>
    if c = d then
      let (n, rest, whole) := skipLead lead rest
      (n + 1, rest, whole)
    else (0, d :: rest, false)
  | _ :: _, [] => (0, [], false)

/-- Passes the start of a line. -/
def atLine (s : Style) (p : Place) : Place :=
  let (rest, column, tabs) := skipBlanks 0 p.tabs p.rest
  if s.lead.isEmpty then { rest, column, tabs, indent := min s.leadIndent column }
  else
    let (n, more, whole) := skipLead s.lead rest
    if whole then
      let (more, behind, tabs) := skipBlanks (column + n) tabs more
      { rest := more, column := behind, tabs, indent := column }
    else { rest := more, column := column + n, tabs, indent := column }

/-- Space from a column on, with tabs if there are some in the text; and the column behind it. -/
def space (tabs : Bool) (column size : Nat) : List Char × Nat :=
  let target := column + size
  let tabTarget := target / 8 * 8
  if tabs && column + 1 < tabTarget then
    (List.replicate (tabTarget / 8 - column / 8) '\t' ++ List.replicate (target - tabTarget) ' ',
      target)
  else (List.replicate size ' ', target)

/-- The end of a line or of the text. -/
def isEnd (rest : List Char) : Bool := rest.isEmpty || rest.head? == some '\n'

/-- A line that does not belong to a paragraph, as it is written. -/
def copied (s : Style) (p : Place) : List Char :=
  let line := p.rest.takeWhile (· != '\n')
  let lead :=
    if p.indent < p.column || !isEnd p.rest then
      let (first, column) := space p.tabs 0 p.indent
      let marks := s.lead.take (p.column - column)
      let column := column + marks.length
      let more := if isEnd p.rest then [] else (space p.tabs column (p.column - column)).1
      let ending :=
        if p.rest.isEmpty && p.indent + s.lead.length ≤ p.column then ['\n'] else []
      first ++ marks ++ more ++ ending
    else []
  lead ++ line ++ if line.length < p.rest.length then ['\n'] else []

/-- A line belongs to no paragraph. -/
def isOutside (s : Style) (p : Place) : Bool :=
  isEnd p.rest || p.indent < s.leadIndent || p.column < p.indent + s.leadLength

/-- A blank, or what ends a line or a page. -/
def isSpace (c : Char) : Bool := Number.isBlank c

/-- A sign that is neither a letter nor a digit. -/
def isSign (c : Char) : Bool :=
  33 ≤ c.toNat && c.toNat < 127 && !c.isAlphanum

/-- Looks at the signs around a word. -/
def wordOf (text : List Char) : Word :=
  let closing : List Char := [')', ']', '\'', '"']
  let ending := match text.reverse.dropWhile closing.contains with
    | c :: _ => c
    | [] => text.headD ' '
  { text
    opens := ['(', '[', '\'', '\x60', '"'].contains (text.headD ' ')
    isMarked := isSign (text.getLastD ' ')
    hasPeriod := ['.', '?', '!'].contains ending }

/-- Reads the words up to the end of a line; `n` bounds their number. -/
def readWords (s : Style) : Nat → Place → List Word × Place
  | 0, p => ([], p)
  | n + 1, p =>
    let text := match p.rest with
      | c :: rest => c :: rest.takeWhile fun c => !isSpace c
      | [] => []
    let start := p.column + text.length
    let (rest, column, tabs) := skipBlanks start p.tabs (p.rest.drop text.length)
    let w := wordOf text
    let isLast := rest.isEmpty || (w.hasPeriod && (isEnd rest || 1 < column - start))
    let space := if isEnd rest || s.uniform then (if isLast then 2 else 1) else column - start
    let w := { w with space, isLast }
    let p := { p with rest, column, tabs }
    if isEnd rest then ([w], p)
    else
      let (ws, p) := readWords s n p
      (w :: ws, p)

/-- Reads a line, up to the words of the next one. -/
def readLine (s : Style) (p : Place) : List Word × Place :=
  let (ws, p) := readWords s (p.rest.length + 1) p
  (ws, atLine s { p with rest := p.rest.drop 1 })

/-- A line goes on with the paragraph of a line before. -/
def goesOn (s : Style) (indent : Nat) (p : Place) : Bool :=
  p.indent == indent && p.indent + s.leadLength ≤ p.column && !isEnd p.rest

/-- Reads the lines of a paragraph that have its other indent; `n` bounds their number. -/
def readMore (s : Style) (indent other : Nat) : Nat → Place → List Word × Place
  | 0, p => ([], p)
  | n + 1, p =>
    if goesOn s indent p && p.column == other then
      let (ws, p) := readLine s p
      let (more, p) := readMore s indent other n p
      (ws ++ more, p)
    else ([], p)

/-! ## Costs -/

/-- The cost of a difference. -/
def square (n : Int) : Int := n * n

/-- The cost of a line that is so much shorter or longer than the goal. -/
def shortCost (n : Int) : Int := square (n * 10)

/-- The cost of a break in front of a word, by the words around it. -/
def baseCost (before last : Option Word) (w : Word) : Int :=
  let behind : Int := match last with
    | none => 0
    | some v =>
      if v.hasPeriod then (if v.isLast then -square 50 else square 600)
      else if v.isMarked then -square 40
      else if before.any (·.isLast) then square 200 / (v.text.length + 2 : Nat)
      else 0
  let front : Int :=
    if w.opens then -square 40
    else if w.isLast then square 150 / (w.text.length + 2 : Nat)
    else 0
  square 70 + behind + front

/-- The best way to go on from a word: its cost, how many words are in its first line, and how long
that is. -/
structure Plan where
  cost : Int
  count : Nat := 0
  length : Nat := 0

/-- Looks for the best end of a line that has so many words and is so long; `behind` are the words
that follow, each with its plan. -/
def bestEnd (s : Style) (count length : Nat) (last : Word) (best : Option Plan) :
    List (Word × Plan) → Option Plan
  | [] =>
    -- the end of the paragraph costs nothing
    if best.all fun b => 0 < b.cost then some ⟨0, count, length⟩ else best
  | (w, plan) :: behind =>
    let ragged : Int :=
      if plan.count ≤ behind.length then shortCost ((length : Int) - plan.length) / 2 else 0
    let cost := shortCost ((s.goal : Int) - length) + ragged + plan.cost
    let best := if best.all fun b => cost < b.cost then some ⟨cost, count, length⟩ else best
    let length := length + last.space + w.text.length
    if length < s.width then bestEnd s (count + 1) length w best behind else best

/-- Plans for all words of a paragraph. -/
def plans (s : Style) (first other : Nat) : Option Word → Option Word → List Word →
    List (Word × Plan)
  | _, _, [] => []
  | before, last, w :: ws =>
    let behind := plans s first other last (some w) ws
    let indent := if last.isNone then first else other
    let best := (bestEnd s 1 (indent + w.text.length) w none behind).getD ⟨0, 1, 0⟩
    (w, { best with cost := best.cost + baseCost before last w }) :: behind

/-! ## Writing -/

/-- The words of a line with the space between them; and the column behind. -/
def lineOf (tabs : Bool) (column : Nat) : List Word → List Char
  | [] => []
  | [w] => w.text
  | w :: ws =>
    let (gap, column) := space tabs (column + w.text.length) w.space
    w.text ++ gap ++ lineOf tabs column ws

/-- Writes lines as planned; `n` bounds their number. -/
def written (s : Style) (tabs : Bool) (start other : Nat) : Nat → Nat → List (Word × Plan) →
    List Char
  | 0, _, _ => []
  | _, _, [] => []
  | n + 1, indent, (w, plan) :: ws =>
    let (before, column) := space tabs 0 start
    let column := column + s.lead.length
    let (behind, column) := space tabs column (indent - column)
    let words := ((w, plan) :: ws).take plan.count
    before ++ s.lead ++ behind ++ lineOf tabs column (words.map (·.1)) ++ '\n' ::
      written s tabs start other n other (((w, plan) :: ws).drop plan.count)

/-- The other indent of a paragraph, as the line behind its first says, and the last one. -/
def otherIndent (s : Style) (same : Bool) (first column old : Nat) : Nat :=
  if s.splits then first
  else if s.crown then (if same then column else first)
  else if s.tagged then
    if same && column != first then column
    else if old = first then (if first = 0 then 3 else 0)
    else old
  else first

/-- Marks the last word of a paragraph as the end of a sentence. -/
def closed (ws : List Word) : List Word :=
  match ws.getLast? with
  | some w => ws.dropLast ++ [{ w with hasPeriod := true, isLast := true }]
  | none => []

/-- Breaks all paragraphs behind a place; `n` bounds the number of lines. -/
def formatFrom (s : Style) : Nat → Nat → Place → List Char
  | 0, _, _ => []
  | n + 1, old, p =>
    if isOutside s p then
      let line := copied s p
      if (p.rest.dropWhile (· != '\n')).isEmpty then line
      else
        let rest := (p.rest.dropWhile (· != '\n')).drop 1
        line ++ formatFrom s n old (atLine s { p with rest })
    else
      let (indent, first) := (p.indent, p.column)
      let (ws, p) := readLine s p
      let same := goesOn s indent p
      let other := otherIndent s same first p.column old
      let (more, p) :=
        if s.splits || (s.tagged && !s.crown && p.column = first) then ([], p)
        else readMore s indent other (p.rest.length + 1) p
      let ws := closed (ws ++ more)
      written s p.tabs indent other ws.length first (plans s first other none none ws) ++
        formatFrom s n other p

/-- Breaks all paragraphs of a text. -/
def format (s : Style) (cs : List Char) : List Char :=
  formatFrom s (cs.length + 1) 0 (atLine s { rest := cs })

/-! ## The program -/

/-- The width that is used if none is asked for. -/
def usualWidth : Nat := 75

/-- The largest width. -/
def maxWidth : Nat := 2500

/-- Reads a width up to a limit. -/
def widthOf (text : String) (limit : Nat) : Except String Nat :=
  match Number.natural? text with
  | some n =>
    if n ≤ limit then .ok n
    else .error ("invalid width: " ++ Options.quoted text ++ ": Numerical result out of range")
  | none => .error ("invalid width: " ++ Options.quoted text)

/-- The style that options ask for. -/
def styleOf (o : Options) : Except String Style := do
  let width? ← (o.value? 'w').mapM fun text => widthOf text maxWidth
  let goal? ← (o.value? 'g').mapM fun text => widthOf text (width?.getD usualWidth)
  let width := width?.getD (match goal? with
    | some goal => goal + 10
    | none => usualWidth)
  let lead := Bytes.narrow ((o.value? 'p').getD "")
  let indent := (lead.takeWhile (· == ' ')).length
  let lead := lead.drop indent
  return {
    width, goal := goal?.getD (width * 187 / 200)
    crown := o.has 'c', tagged := o.has 't', splits := o.has 's', uniform := o.has 'u'
    lead := (lead.reverse.dropWhile (· == ' ')).reverse
    leadIndent := indent, leadLength := lead.length }

/-- A width as the first option, written as an option for it. -/
def oldWidth : List String → List String
  | word :: rest =>
    match word.toList with
    | '-' :: c :: more =>
      if c.isDigit then ("-w" ++ String.ofList (c :: more)) :: rest else word :: rest
    | _ => word :: rest
  | [] => []

/-- The program `fmt`: breaks paragraphs into lines. -/
def run (i : Invocation) : Ended :=
  ({ i with args := oldWidth i.args } : Invocation).withOptions {
      alone := "cstu", valued := "wgp"
      long := [("crown-margin", 'c'), ("split-only", 's'), ("tagged-paragraph", 't'),
        ("uniform-spacing", 'u'), ("width", 'w'), ("goal", 'g'), ("prefix", 'p')] } fun o =>
    match styleOf o with
    | .error e => i.complained e
    | .ok s =>
      i.forFiles o.words
        (fun _ bytes => Bytes.ofChars (format s (Bytes.chars bytes)))
        (fun name e => i.complaint ("cannot open " ++ Options.quoted name ++ " for reading: " ++
          reason e))

end Paragraph

end Fleet.Shell
