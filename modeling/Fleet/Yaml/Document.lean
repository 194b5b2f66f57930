import Fleet.Yaml.Event

namespace Fleet.Yaml

/-! # Documents

The events of a document with its aliases resolved.  An anchor has a number, which is how many
different names were anchored before it; an alias stands for the node whose anchor was the last to
get the number that the name had when the alias was read.
-/

/-- A node, or the end of one. -/
inductive Item where
  | alias (number : Nat)
  | scalar (tag : Option String) (text : String) (style : Style)
  | sequence
  | mapping
  | stop
  deriving DecidableEq, Repr

/-- A node, or the end of one, and where in the text it begins. -/
structure Placed where
  item : Item
  mark : Mark
  deriving DecidableEq, Repr

/-- The nodes of a document in their order, as far as it could be read. -/
structure Document where
  items : List Placed := []
  /-- the node that each number of an anchor stands for -/
  targets : List (Nat × Placed) := []
  /-- why there is no more -/
  flaw : Option Flaw := none

/-- The names that are anchored, with their numbers. -/
abbrev Anchors := List (String × Nat)

/-- Gives a name the next number. -/
def Anchors.add (anchors : Anchors) (name : String) : Anchors :=
  (name, anchors.length) :: anchors.filter fun (n, _) => n != name

namespace Document

/-- Puts a node in front; its anchor stands for it, unless a later one has the same number. -/
def cons (placed : Placed) (number : Option Nat) (d : Document) : Document :=
  { d with
    items := placed :: d.items
    targets := match number with
      | some n => d.targets ++ [(n, placed)]
      | none => d.targets }

/-- Resolves the names of anchors; an unknown one ends the document. -/
def ofEvents (flaw : Option Flaw) : Anchors → List Located → Document
  | _, [] => { flaw }
  | anchors, ⟨event, mark⟩ :: rest =>
    let node (anchor : Option String) (item : Item) : Document :=
      match anchor with
      | none => (ofEvents flaw anchors rest).cons ⟨item, mark⟩ none
      | some name =>
        (ofEvents flaw (anchors.add name) rest).cons ⟨item, mark⟩ (some anchors.length)
    match event with
    | .alias name =>
      match anchors.lookup name with
      | some n => (ofEvents flaw anchors rest).cons ⟨.alias n, mark⟩ none
      | none => { flaw := some .unknownAnchor }
    | .scalar anchor tag text style => node anchor (.scalar tag text style)
    | .sequenceStart anchor _ => node anchor .sequence
    | .mappingStart anchor _ => node anchor .mapping
    | .sequenceEnd | .mappingEnd => (ofEvents flaw anchors rest).cons ⟨.stop, mark⟩ none

/-- The document of a text. -/
def ofText (text : List Char) : Document :=
  let (located, flaw) := events text
  ofEvents flaw [] located

/-- What an item stands for: an alias for the node that it names. -/
def resolve (d : Document) (placed : Placed) : Placed :=
  match placed.item with
  | .alias n => (d.targets.lookup n).getD placed
  | _ => placed

end Document

end Fleet.Yaml
