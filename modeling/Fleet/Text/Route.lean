namespace Fleet.Text

/-! # Routes through a text

A text of `n` characters has `n + 1` places: one before each character and one at the end.  A set of
places is a number whose bit `i` stands for the place with `i` characters before it.  A route says
how to go on from a place, in one way or in several; `ends` are the places where it leads from any
place of a set.

Sets of places make the work small: a part of a route that is walked again and again is walked from
all places at once, and only from those where nobody was before.
-/

/-- How to go on in a text. -/
inductive Route where
  /-- goes nowhere -/
  | stay
  /-- goes to the next place from the places of a set -/
  | step (set : Nat)
  /-- goes on at the places of a set only -/
  | gate (set : Nat)
  /-- one route and then another -/
  | cat (first second : Route)
  /-- one route or another -/
  | alt (first second : Route)
  /-- a route at least `least` times, and at most `most` times more -/
  | repeated (body : Route) (least most : Nat)

namespace Route

/-- Goes on `n` times.  Once nothing changes there is no need to go on. -/
def times (go : Nat → Nat) : Nat → Nat → Nat
  | 0, places => places
  | n + 1, places =>
    let next := go places
    if next = places then places else times go n next

/-- The places that are reached in at most `n` turns: `known` are those that are known already, and
`front` those of them where nobody went on from. -/
def spread (go : Nat → Nat) : Nat → Nat → Nat → Nat
  | 0, _, known => known
  | n + 1, front, known =>
    let all := known ||| go front
    let new := all ^^^ known
    if new = 0 then known else spread go n new all

/-- Where a route leads from the places of a set. -/
def ends : Route → Nat → Nat
  | stay, places => places
  | step set, places => (places &&& set) <<< 1
  | gate set, places => places &&& set
  | cat a b, places => b.ends (a.ends places)
  | alt a b, places => a.ends places ||| b.ends places
  | repeated r least most, places =>
    let first := times (fun s => r.ends s) least places
    spread (fun s => r.ends s) most first first

/-- The set of the places that pass a test, of `n` places. -/
def placesWhere (test : List Bool) : Nat := test.foldr (fun b rest => 2 * rest + b.toNat) 0

/-- The places of a text that come right before a character with a property. -/
def placesBefore (accepts : Char → Bool) (text : List Char) : Nat := placesWhere (text.map accepts)

/-- The places of a text at which something is true of the characters before and behind. -/
def placesBetween (holds : Option Char → Option Char → Bool) (text : List Char) : Nat :=
  let chars := text.map some
  placesWhere (List.zipWith holds (none :: chars) (chars ++ [none]))

/-- All places of a text. -/
def allPlaces (text : List Char) : Nat := 1 <<< (text.length + 1) - 1

/-- A route leads somewhere from some place of a text. -/
def leads (r : Route) (text : List Char) : Bool := r.ends (allPlaces text) != 0

end Route

end Fleet.Text
