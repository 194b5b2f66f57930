import Fleet.CommandLine.Pattern.Flaw

namespace Fleet.CommandLine.Pattern

/-! # The parts of a pattern

A pattern as it is written: every part of it with its place.
-/

/-- A character that stands for itself; `byte` says that it is written as a byte, by two hexadecimal
digits. -/
structure Literal where
  span : Span
  char : Char
  byte : Bool := false
  deriving DecidableEq, Repr

/-- What a place between two characters can be asked for. -/
inductive Assertion where
  | lineStart
  | lineEnd
  | textStart
  | textEnd
  | wordBoundary
  | noWordBoundary
  | wordStart
  | wordEnd
  | wordStartHalf
  | wordEndHalf
  deriving DecidableEq, Repr

/-- A set of characters with a short name. -/
inductive Shorthand where
  | digit
  | space
  | word
  deriving DecidableEq, Repr

/-- A set of characters by a property that they have in Unicode. -/
inductive Property where
  | named (name : String)
  | valued (name value : String) (equal : Bool)
  deriving DecidableEq, Repr

/-- How two sets are made one. -/
inductive SetOperator where
  | intersection
  | difference
  | symmetricDifference
  deriving DecidableEq, Repr

/-- A set of characters between brackets. -/
inductive SetNode where
  | empty (span : Span)
  | literal (l : Literal)
  | range (span : Span) (low high : Literal)
  | ascii (span : Span) (negated : Bool) (name : String)
  | property (span : Span) (negated : Bool) (p : Property)
  | shorthand (span : Span) (negated : Bool) (s : Shorthand)
  | bracketed (span : Span) (negated : Bool) (body : SetNode)
  | union (span : Span) (items : List SetNode)
  | operation (span : Span) (operator : SetOperator) (left right : SetNode)

/-- Where a set is written. -/
def SetNode.span : SetNode → Span
  | literal l => l.span
  | empty s | range s _ _ | ascii s _ _ | property s _ _ | shorthand s _ _ | bracketed s _ _
  | union s _ | operation s _ _ _ => s

/-- What changes how the rest of a group is read. -/
inductive Flag where
  | ignoreCase
  | manyLines
  | dotMatchesAll
  | swapGreed
  | unicode
  | crlf
  | spaced
  deriving DecidableEq, Repr

/-- The flags that are given, with whether each is set. -/
abbrev Flags := List (Flag × Bool)

/-- A pattern. -/
inductive Node where
  | empty (span : Span)
  | flags (span : Span) (given : Flags)
  | literal (l : Literal)
  | dot (span : Span)
  | assertion (span : Span) (a : Assertion)
  | property (span : Span) (negated : Bool) (p : Property)
  | shorthand (span : Span) (negated : Bool) (s : Shorthand)
  | set (span : Span) (negated : Bool) (body : SetNode)
  | repetition (span : Span) (least : Nat) (most : Option Nat) (body : Node)
  | group (span : Span) (captures : Bool) (given : Flags) (body : Node)
  | alternation (span : Span) (branches : List Node)
  | concat (span : Span) (items : List Node)

/-- Where a pattern is written. -/
def Node.span : Node → Span
  | literal l => l.span
  | empty s | flags s _ | dot s | assertion s _ | property s _ _ | shorthand s _ _ | set s _ _
  | repetition s _ _ _ | group s _ _ _ | alternation s _ | concat s _ => s

/-! ## Depth -/

/-- How deep parts may lie in each other. -/
def maxDepth : Nat := 250

/-- A part at a depth, which is refused if it lies too deep. -/
def atDepth (depth : Nat) (span : Span) : Except Finding Unit :=
  if maxDepth < depth then .error ⟨.nesting maxDepth, span, none⟩ else .ok ()

mutual

/-- Refuses a set with a part that lies too deep; `depth` are the parts around it. -/
def SetNode.checkDepth (depth : Nat) : SetNode → Except Finding Unit
  | bracketed span _ body => do
    atDepth (depth + 1) span
    body.checkDepth (depth + 1)
  | union span items => do
    atDepth (depth + 1) span
    SetNode.checkDepths (depth + 1) items
  | operation span _ left right => do
    atDepth (depth + 1) span
    left.checkDepth (depth + 1)
    right.checkDepth (depth + 1)
  | _ => .ok ()

/-- Refuses sets with a part that lies too deep. -/
def SetNode.checkDepths (depth : Nat) : List SetNode → Except Finding Unit
  | [] => .ok ()
  | s :: rest => do
    s.checkDepth depth
    SetNode.checkDepths depth rest

end

mutual

/-- Refuses a pattern with a part that lies too deep; `depth` are the parts around it. -/
def Node.checkDepth (depth : Nat) : Node → Except Finding Unit
  | set span _ body => do
    atDepth (depth + 1) span
    body.checkDepth (depth + 1)
  | repetition span _ _ body | group span _ _ body => do
    atDepth (depth + 1) span
    body.checkDepth (depth + 1)
  | alternation span nodes | concat span nodes => do
    atDepth (depth + 1) span
    Node.checkDepths (depth + 1) nodes
  | _ => .ok ()

/-- Refuses patterns with a part that lies too deep. -/
def Node.checkDepths (depth : Nat) : List Node → Except Finding Unit
  | [] => .ok ()
  | n :: rest => do
    n.checkDepth depth
    Node.checkDepths depth rest

end

end Fleet.CommandLine.Pattern
