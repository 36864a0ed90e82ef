import DeferredViews.Yaml.Reading
import DeferredViews.Yaml.Tag

/-!
# Nodes of a document

A document is one node: a scalar, a sequence or a mapping, each with a tag. A node may have a name
by which later places refer to it; a reference stands for the node itself.
-/
namespace DeferredViews.Yaml

inductive Node where
  | scalar (tag : Tag) (text : String)
  | sequence (tag : Tag) (items : List Node)
  | mapping (tag : Tag) (entries : List (Node × Node))
  /-- A reference to a node that this one is a part of. -/
  | cycle
  deriving Repr, Inhabited

/-- A plain empty text, which is what a missing node means. -/
def Node.empty : Node := .scalar .null ""

/-- What putting nodes together knows: the tokens left, the place of the last one gone over, the
named nodes, the names of nodes that are not complete yet, and what handles of tags mean. -/
structure Assembly where
  tokens : List Placed
  place : Cursor
  named : List (String × Node) := []
  opened : List String := []
  handles : List (String × String)

/-- The handles that every document has. -/
def coreHandles : List (String × String) := [("!", "!"), ("!!", corePart)]

/-- A computation over an assembly. -/
abbrev Assemble := StateT Assembly (Except Fault)

namespace Assemble

def peek : Assemble (Option Token) := do return (← get).tokens.head?.map (·.token)

/-- The place of the next token, or of the last one if none is left. -/
def here : Assemble Cursor := do
  let a ← get
  return (a.tokens.head?.map (·.place)).getD a.place

def advance : Assemble Unit := do
  let place ← here
  modify fun a => { a with tokens := a.tokens.tail, place }

def refuse {α : Type} (problem : String) : Assemble α := do
  liftM ((← here).refuse problem : Except Fault α)

/-- Go over a token if it is the next one. -/
def skip (t : Token) : Assemble Bool := do
  if (← peek) = some t then
    advance
    return true
  else return false

/-- Whether the next token is one of some. -/
def before (ts : List Token) : Assemble Bool := do return (← peek).any (ts.contains ·)

/-- The node of a name. -/
def nodeOf (name : String) : Assemble Node := do
  let a ← get
  if a.opened.contains name then return .cycle
  else
    match a.named.lookup name with
    | some n => return n
    | none => refuse ("the unknown name " ++ name)

end Assemble

/-- What stands before the content of a node: its name and its tag, in either order. -/
structure Properties where
  name : Option String := none
  tag : Option String := none

open Assemble

def readAnchor : Assemble (Option String) := do
  match ← peek with
  | some (.anchor name) => do
    advance
    return some name
  | _ => return none

/-- The full text of a tag, if one stands here. -/
def readTagName : Assemble (Option String) := do
  match ← peek with
  | some (.tag none suffix) => do
    advance
    return some suffix
  | some (.tag (some handle) suffix) => do
    advance
    match (← get).handles.lookup handle with
    | some meaning => return some (meaning ++ suffix)
    | none => refuse ("the unknown tag handle " ++ handle)
  | _ => return none

def readProperties : Assemble Properties := do
  match ← readAnchor with
  | some name => return ⟨some name, ← readTagName⟩
  | none =>
    match ← readTagName with
    | some tag => return ⟨← readAnchor, some tag⟩
    | none => return {}

/-- The tag of a node with a written tag, or else the usual one. -/
def tagOr (written : Option String) (usual : Tag) : Tag :=
  match written with
  | none | some "!" => usual
  | some s => Tag.ofText s

/-- The tag of a scalar. A lone exclamation mark has it treated as plain. -/
def scalarTag (written : Option String) (text : String) (plain : Bool) : Tag :=
  tagOr written (if plain || written = some "!" then .ofPlain text else .str)

/-- Put a node together whose name, if it has one, must be new. -/
def naming (name : Option String) (make : Assemble Node) : Assemble Node := do
  match name with
  | none => make
  | some name => do
    let a ← get
    if a.opened.contains name || (a.named.lookup name).isSome then
      refuse ("the name " ++ name ++ " for a second node")
    else
      set { a with opened := name :: a.opened }
      let node ← make
      modify fun a =>
        { a with named := (name, node) :: a.named, opened := a.opened.filter (· ≠ name) }
      return node

/-- What may be opened by the next node: block collections, and sequences without a depth of their
own. -/
inductive Position where
  | flow
  | block
  | blockOrEntry
  deriving DecidableEq, Repr

mutual

/-- A node. -/
def readNode (position : Position) : Nat → Assemble Node
  | 0 => refuse "a document nested too deeply"
  | fuel + 1 => do
    match ← peek with
    | some (.alias name) => do
      let node ← nodeOf name
      advance
      return node
    | _ => do
      let p ← readProperties
      naming p.name (readContent position p fuel)

/-- The content of a node. -/
def readContent (position : Position) (p : Properties) : Nat → Assemble Node
  | 0 => refuse "a document nested too deeply"
  | fuel + 1 => do
    let block := position ≠ .flow
    let sequence (items : List Node) : Node := .sequence (tagOr p.tag .seq) items
    let mapping (entries : List (Node × Node)) : Node := .mapping (tagOr p.tag .map) entries
    match ← peek with
    | some (.scalar text plain) => do
      advance
      return .scalar (scalarTag p.tag text plain) text
    | some .flowSequence => do
      advance
      return sequence (← readFlowItems true fuel)
    | some .flowMapping => do
      advance
      return mapping (← readFlowEntries true fuel)
    | some .blockEntry =>
      if position = .blockOrEntry then return sequence (← readEntryItems fuel)
      else readNothing p
    | some .blockSequence =>
      if block then do
        advance
        return sequence (← readBlockItems fuel)
      else readNothing p
    | some .blockMapping =>
      if block then do
        advance
        return mapping (← readBlockEntries fuel)
      else readNothing p
    | _ => readNothing p

/-- A node without content has a name or a tag at least. -/
def readNothing (p : Properties) : Assemble Node :=
  if p.name.isSome || p.tag.isSome then return .scalar (scalarTag p.tag "" true) ""
  else refuse "expected the content of a node"

/-- A node, unless one of some tokens shows that there is none. -/
def readUnless (ts : List Token) (position : Position) : Nat → Assemble Node
  | 0 => refuse "a document nested too deeply"
  | fuel + 1 => do
    if ← before ts then return .empty else readNode position fuel

def readBlockItems : Nat → Assemble (List Node)
  | 0 => refuse "a document nested too deeply"
  | fuel + 1 => do
    if ← skip .blockEntry then
      let item ← readUnless [.blockEntry, .blockEnd] .block fuel
      return item :: (← readBlockItems fuel)
    else if ← skip .blockEnd then return []
    else refuse "expected the end of a block"

/-- The items of a sequence that is not deeper than the mapping around it. -/
def readEntryItems : Nat → Assemble (List Node)
  | 0 => refuse "a document nested too deeply"
  | fuel + 1 => do
    if ← skip .blockEntry then
      let item ← readUnless [.blockEntry, .key, .value, .blockEnd] .block fuel
      return item :: (← readEntryItems fuel)
    else return []

def readBlockEntries : Nat → Assemble (List (Node × Node))
  | 0 => refuse "a document nested too deeply"
  | fuel + 1 => do
    let ends := [Token.key, .value, .blockEnd]
    if ← skip .key then
      let key ← readUnless ends .blockOrEntry fuel
      let value ← if ← skip .value then readUnless ends .blockOrEntry fuel else pure .empty
      return (key, value) :: (← readBlockEntries fuel)
    else if ← skip .blockEnd then return []
    else refuse "expected the end of a block"

/-- The items of a flow sequence. An item with a key is a mapping with one entry. -/
def readFlowItems (first : Bool) : Nat → Assemble (List Node)
  | 0 => refuse "a document nested too deeply"
  | fuel + 1 => do
    if ← skip .flowSequenceEnd then return []
    else if first || (← skip .flowEntry) then
      if ← skip .flowSequenceEnd then return []
      else
        let item ←
          if ← skip .key then do
            let key ← readUnless [.value, .flowEntry, .flowSequenceEnd] .flow fuel
            let value ←
              if ← skip .value then readUnless [.flowEntry, .flowSequenceEnd] .flow fuel
              else pure .empty
            pure (.mapping .map [(key, value)])
          else readNode .flow fuel
        return item :: (← readFlowItems false fuel)
    else refuse "expected a comma or a closing bracket"

def readFlowEntries (first : Bool) : Nat → Assemble (List (Node × Node))
  | 0 => refuse "a document nested too deeply"
  | fuel + 1 => do
    if ← skip .flowMappingEnd then return []
    else if first || (← skip .flowEntry) then
      if ← skip .flowMappingEnd then return []
      else
        let entry ←
          if ← skip .key then do
            let key ← readUnless [.value, .flowEntry, .flowMappingEnd] .flow fuel
            let value ←
              if ← skip .value then readUnless [.flowEntry, .flowMappingEnd] .flow fuel
              else pure .empty
            pure (key, value)
          else do
            let key ← readNode .flow fuel
            pure (key, Node.empty)
        return entry :: (← readFlowEntries false fuel)
    else refuse "expected a comma or a closing brace"

end

/-- The directives before a document. -/
def readDirectives : Nat → Option Nat → Assemble Unit
  | 0, _ => return
  | fuel + 1, version => do
    match ← peek with
    | some (.directive (.version major)) =>
      if version.isSome then refuse "a second version"
      else if major ≠ 1 then refuse "a version other than one"
      else do
        advance
        readDirectives fuel (some major)
    | some (.directive (.handle name meaning)) => do
      let a ← get
      if (a.handles.lookup name).isSome then refuse "a second meaning of a tag handle"
      else
        set { a with handles := (name, meaning) :: a.handles }
        advance
        readDirectives fuel version
    | some (.directive .other) => do
      advance
      readDirectives fuel version
    | _ => return

/-- The rest after a document: marks of its end, and nothing else. -/
def skipEnds : Nat → Assemble Unit
  | 0 => return
  | fuel + 1 => do if ← skip .documentEnd then skipEnds fuel

/-- Whether directives or the mark of its start come before the document. -/
def hasStart : Assemble Bool := do
  match ← peek with
  | some (.directive _) | some .documentStart => return true
  | _ => return false

/-- A document after its directives. -/
def readMarkedDocument (fuel : Nat) : Assemble Node := do
  set { (← get) with handles := [] }
  readDirectives fuel none
  let a ← get
  set { a with handles := a.handles ++ coreHandles }
  if !(← skip .documentStart) then refuse "expected the start of a document"
  else
    match ← peek with
    | none | some (.directive _) | some .documentStart | some .documentEnd => return .empty
    | _ => readNode .block fuel

/-- The only document of the tokens, if there is one. -/
def readDocument (fuel : Nat) : Assemble (Option Node) := do
  match ← peek with
  | none => return none
  | some _ => do
    let node ← if ← hasStart then readMarkedDocument fuel else readNode .block fuel
    skipEnds fuel
    match ← peek with
    | none => return some node
    | some _ => refuse "expected no second document"

/-- The node that a text describes; a text without a document describes none. -/
def Node.ofText? (s : List Char) : Except Fault (Option Node) := do
  let tokens := (← tokensOf s).toList
  let start : Assembly := { tokens, place := { rest := s }, handles := coreHandles }
  return (← (readDocument (3 * tokens.length + 8)).run start).1

end DeferredViews.Yaml
