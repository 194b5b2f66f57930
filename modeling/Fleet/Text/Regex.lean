import Fleet.Text.Route

namespace Fleet.Text

/-! # Regular expressions

An expression describes texts, and `places` tells where in a text a match that begins at a given
place can end.  How expressions are written is no matter here: a set of characters is given by its
members, and an assertion by what it asks of the characters before and behind it.

Of all matches the one that begins first counts, and of those the longest.  Among the ways to divide
it between the parts of an expression, earlier parts take as much as they can.
-/

/-- A regular expression. -/
inductive Regex where
  /-- the empty text -/
  | empty
  /-- one character -/
  | one (accepts : Char → Bool)
  /-- nothing, at a place between two characters -/
  | look (holds : Option Char → Option Char → Bool)
  | cat (first second : Regex)
  | alt (first second : Regex)
  /-- at least `least` times, at most `most` times if there is a bound -/
  | repeated (body : Regex) (least : Nat) (most : Option Nat)
  /-- a part whose match is remembered -/
  | group (number : Nat) (body : Regex)
  /-- the text that a group has matched -/
  | again (number : Nat)

/-- A place in a text, and what the groups have matched on the way to it: for each of them where it
begins and how many characters it has. -/
structure Place where
  index : Nat := 0
  before : Option Char := none
  rest : List Char
  groups : List (Nat × Nat × Nat) := []
  deriving DecidableEq, Repr

namespace Place

/-- The places of a text, from its beginning to its end. -/
def all (index : Nat) (before : Option Char) : List Char → List Place
  | [] => [⟨index, before, [], []⟩]
  | c :: rest => ⟨index, before, c :: rest, []⟩ :: all (index + 1) (some c) rest

/-- The place that lies `n` characters ahead. -/
def ahead (p : Place) : Nat → Place
  | 0 => p
  | n + 1 => match p.rest with
    | [] => p
    | c :: rest => ahead ⟨p.index + 1, some c, rest, p.groups⟩ n

/-- Remembers what a group has matched from `start` to here. -/
def remember (p : Place) (number start : Nat) : Place :=
  { p with
    groups := (number, start, p.index - start) :: p.groups.filter fun (n, _) => n != number }

/-- Two places that lead to the same matches. -/
def isLike (byGroups : Bool) (p q : Place) : Bool :=
  p.index == q.index && (!byGroups || p.groups == q.groups)

/-- Leaves out every place that is like one before it. -/
def distinct (byGroups : Bool) (places : List Place) : List Place :=
  (places.foldl (fun kept p => if kept.any (isLike byGroups p) then kept else p :: kept) []).reverse

/-- The farthest places first. -/
def farthestFirst (places : List Place) : List Place :=
  places.mergeSort fun p q => q.index ≤ p.index

/-- The places that are reached by at most `n` steps from the places of `front`, and those that are
already known. -/
def reached (byGroups : Bool) (step : Place → List Place) :
    Nat → List Place → List Place → List Place
  | 0, _, known => known
  | n + 1, front, known =>
    let found := distinct byGroups (front.flatMap step)
    let next := found.filter fun p => !known.any (isLike byGroups p)
    if next.isEmpty then known else reached byGroups step n next (known ++ next)

end Place

namespace Regex

/-- The expression asks again for what a group has matched. -/
def asksAgain : Regex → Bool
  | again _ => true
  | cat a b | alt a b => a.asksAgain || b.asksAgain
  | repeated r _ _ | group _ r => r.asksAgain
  | _ => false

/-- Where matches in `text` end that begin at one of the places, each end once.  `byGroups` says
that ends also differ by what the groups have matched. -/
def places (text : List Char) (byGroups : Bool) : Regex → List Place → List Place
  | empty, ps => ps
  | one accepts, ps => ps.filterMap fun p =>
    match p.rest with
    | c :: rest => if accepts c then some ⟨p.index + 1, some c, rest, p.groups⟩ else none
    | [] => none
  | look holds, ps => ps.filter fun p => holds p.before p.rest.head?
  | cat a b, ps => places text byGroups b (places text byGroups a ps)
  | alt a b, ps =>
    Place.distinct byGroups <| ps.flatMap fun p =>
      Place.farthestFirst (places text byGroups a [p] ++ places text byGroups b [p])
  | repeated r least most, ps =>
    let step (p : Place) : List Place := places text byGroups r [p]
    let often := match most with
      | some n => n - least
      | none => text.length + 1
    Place.distinct byGroups <| ps.flatMap fun p =>
      let first := (List.range least).foldl
        (fun found _ => Place.distinct byGroups (found.flatMap step)) [p]
      Place.farthestFirst (Place.reached byGroups step often first first)
  | group number r, ps =>
    Place.distinct byGroups <| ps.flatMap fun p =>
      (Place.farthestFirst (places text byGroups r [p])).map fun q => q.remember number p.index
  | again number, ps => ps.filterMap fun p =>
    match p.groups.lookup number with
    | none => none
    | some (start, length) =>
      if ((text.drop start).take length).isPrefixOf p.rest then some (p.ahead length) else none

/-- The way through a text that an expression stands for, what groups have matched left aside. -/
def route (text : List Char) : Regex → Route
  | empty | again _ => .stay
  | one accepts => .step (Route.placesBefore accepts text)
  | look holds => .gate (Route.placesBetween holds text)
  | cat a b => .cat (a.route text) (b.route text)
  | alt a b => .alt (a.route text) (b.route text)
  | repeated r least most =>
    .repeated (r.route text) least
      (match most with | some n => n - least | none => text.length + 1)
  | group _ r => r.route text

/-- There is a match in a text. -/
def occursIn (r : Regex) (text : List Char) : Bool :=
  if r.asksAgain then !(r.places text true (Place.all 0 none text)).isEmpty
  else (r.route text).leads text

/-- A match in a text: where it begins and how long it is, and the same for each group. -/
structure Match where
  start : Nat
  length : Nat
  groups : List (Nat × Nat × Nat)
  deriving DecidableEq, Repr

/-- The longest match that begins at a place. -/
def matchAt? (r : Regex) (text : List Char) (p : Place) : Option Match :=
  (Place.farthestFirst (r.places text r.asksAgain [p])).head?.map fun q =>
    ⟨p.index, q.index - p.index, q.groups⟩

/-- The first match that begins at one of the places. -/
def firstAt? (r : Regex) (text : List Char) (starts : List Place) : Option Match :=
  starts.findSome? (r.matchAt? text)

/-- The matches in a text one behind the other, at most `n` of them; an empty one does not touch the
one before it. -/
def matchesFrom (r : Regex) (text : List Char) : Nat → Option Nat → List Place → List Match
  | 0, _, _ => []
  | n + 1, last, starts =>
    match r.firstAt? text starts with
    | none => []
    | some m =>
      let after := m.start + m.length
      if m.length = 0 then
        let later := matchesFrom r text n none (starts.dropWhile fun p => p.index ≤ after)
        if last = some m.start then later else m :: later
      else m :: matchesFrom r text n (some after) (starts.dropWhile fun p => p.index < after)

/-- The matches in a text one behind the other. -/
def matchesIn (r : Regex) (text : List Char) : List Match :=
  r.matchesFrom text (2 * text.length + 2) none (Place.all 0 none text)

/-- The expressions one behind the other. -/
def ofList (rs : List Regex) : Regex := rs.foldl cat empty

end Regex

end Fleet.Text
