import Codegen.Yaml.Token

/-!
Documents as trees of nodes. Every node has the tag that is written on it, or none. An alias stands
for a copy of what it refers to; inside the very node that it refers to it stays a reference.
-/

namespace Codegen.Yaml

/-- The tag written on a node. A bare `!` counts as none, and makes a scalar be read as a plain
one. -/
abbrev Tag := Option String

inductive Node
  | scalar (tag : Tag) (plain : Bool) (text : String)
  | sequence (tag : Tag) (items : List Node)
  | mapping (tag : Tag) (entries : List (Node × Node))
  | reference (anchor : String)

instance : Inhabited Node := ⟨.scalar none true ""⟩

namespace Node

def empty : Node := .scalar none true ""

end Node

abbrev Handles := List (String × String)

def defaultHandles : Handles := [("!", "!"), ("!!", "tag:yaml.org,2002:")]

/-- Anchors with what they stand on; with nothing while that is still being built. -/
abbrev Anchors := List (String × Option Node)

/-- What building a document goes through: the tokens ahead and the anchors set so far. -/
structure Builder where
  tokens : List Token
  anchors : Anchors

abbrev Build (α : Type) := StateT Builder (Except Unreadable) α

namespace Build

def peek : Build Token := return (← get).tokens.headD .streamEnd

def skip : Build Unit := modify fun s => { s with tokens := s.tokens.drop 1 }

def accept (token : Token) : Build Bool := do
  if (← peek) = token then
    skip
    return true
  else return false

def expect (token : Token) : Build Unit := do
  if !(← accept token) then throw .yaml

def setAnchor (anchor : Option String) (node : Option Node) : Build Unit := do
  match anchor with
  | none => return
  | some name => modify fun s => { s with anchors := (name, node) :: s.anchors }

def checkNewAnchor (anchor : Option String) : Build Unit := do
  let anchors := (← get).anchors
  if anchor.any fun name => (anchors.lookup name).isSome then throw .yaml

def properties (handles : Handles) : Build (Option String × Option String) := do
  let expand (handle : Option String) (suffix : String) : Build String :=
    match handle with
    | none => return suffix
    | some handle =>
      match handles.lookup handle with
      | some expansion => return expansion ++ suffix
      | none => throw .yaml
  match ← peek with
  | .anchor name =>
    skip
    match ← peek with
    | .tag handle suffix =>
      skip
      return (some name, some (← expand handle suffix))
    | _ => return (some name, none)
  | .tag handle suffix =>
    skip
    match ← peek with
    | .anchor name =>
      skip
      return (some name, some (← expand handle suffix))
    | _ => return (none, some (← expand handle suffix))
  | _ => return (none, none)

inductive Place
  | block
  | blockOrIndentless
  | flow
  deriving Repr, DecidableEq

def atOneOf (stops : List Token) : Build Bool := return stops.contains (← peek)

mutual

def node (handles : Handles) (place : Place) : (fuel : Nat) → Build Node
  | 0 => throw .yaml
  | fuel + 1 => do
    if let .alias name ← peek then
      skip
      match (← get).anchors.lookup name with
      | some (some node) => return node
      | some none => return .reference name
      | none => throw .yaml
    let (anchor, tag) ← properties handles
    checkNewAnchor anchor
    let written : Tag := if tag = some "!" then none else tag
    let token ← peek
    let collection (node : Node) : Build Node := do
      setAnchor anchor node
      return node
    match token with
    | .scalar text plain =>
      skip
      let node : Node := .scalar written ((plain && tag.isNone) || tag = some "!") text
      setAnchor anchor node
      return node
    | .flowSequenceStart =>
      skip
      setAnchor anchor none
      collection (.sequence written (← flowItems handles true fuel))
    | .flowMappingStart =>
      skip
      setAnchor anchor none
      collection (.mapping written (← flowEntries handles true fuel))
    | _ =>
      if place = .blockOrIndentless ∧ token = .blockEntry then
        setAnchor anchor none
        collection (.sequence written (← indentlessItems handles fuel))
      else if place ≠ .flow ∧ token = .blockSequenceStart then
        skip
        setAnchor anchor none
        collection (.sequence written (← blockItems handles fuel))
      else if place ≠ .flow ∧ token = .blockMappingStart then
        skip
        setAnchor anchor none
        collection (.mapping written (← blockEntries handles fuel))
      else if anchor.isSome ∨ tag.isSome then
        let node : Node := .scalar written (tag.isNone || tag = some "!") ""
        setAnchor anchor node
        return node
      else throw .yaml

def nodeUnless (handles : Handles) (place : Place) (stops : List Token) : (fuel : Nat) → Build Node
  | 0 => throw .yaml
  | fuel + 1 => do
    if ← atOneOf stops then return .empty else node handles place fuel

def blockItems (handles : Handles) : (fuel : Nat) → Build (List Node)
  | 0 => throw .yaml
  | fuel + 1 => do
    if ← accept .blockEntry then
      let item ← nodeUnless handles .block [.blockEntry, .blockEnd] fuel
      return item :: (← blockItems handles fuel)
    else
      expect .blockEnd
      return []

def indentlessItems (handles : Handles) : (fuel : Nat) → Build (List Node)
  | 0 => throw .yaml
  | fuel + 1 => do
    if ← accept .blockEntry then
      let item ← nodeUnless handles .block [.blockEntry, .key, .value, .blockEnd] fuel
      return item :: (← indentlessItems handles fuel)
    else return []

def blockEntries (handles : Handles) : (fuel : Nat) → Build (List (Node × Node))
  | 0 => throw .yaml
  | fuel + 1 => do
    let stops : List Token := [.key, .value, .blockEnd]
    let part : Build Node := nodeUnless handles .blockOrIndentless stops fuel
    if ← accept .key then
      let key ← part
      let value ← if ← accept .value then part else pure .empty
      return (key, value) :: (← blockEntries handles fuel)
    else
      expect .blockEnd
      return []

def flowItems (handles : Handles) (first : Bool) : (fuel : Nat) → Build (List Node)
  | 0 => throw .yaml
  | fuel + 1 => do
    if ← accept .flowSequenceEnd then return []
    if !first then expect .flowEntry
    if ← accept .key then
      let key ← nodeUnless handles .flow [.value, .flowEntry, .flowSequenceEnd] fuel
      let value ←
        if ← accept .value then nodeUnless handles .flow [.flowEntry, .flowSequenceEnd] fuel
        else pure .empty
      return .mapping none [(key, value)] :: (← flowItems handles false fuel)
    else if ← accept .flowSequenceEnd then return []
    else
      let item ← node handles .flow fuel
      return item :: (← flowItems handles false fuel)

def flowEntries (handles : Handles) (first : Bool) : (fuel : Nat) → Build (List (Node × Node))
  | 0 => throw .yaml
  | fuel + 1 => do
    if ← accept .flowMappingEnd then return []
    if !first then expect .flowEntry
    if ← accept .key then
      let key ← nodeUnless handles .flow [.value, .flowEntry, .flowMappingEnd] fuel
      let value ←
        if ← accept .value then nodeUnless handles .flow [.flowEntry, .flowMappingEnd] fuel
        else pure .empty
      return (key, value) :: (← flowEntries handles false fuel)
    else if ← accept .flowMappingEnd then return []
    else
      let key ← node handles .flow fuel
      return (key, .empty) :: (← flowEntries handles false fuel)

end

def directives (version : Bool) (handles : Handles) : (fuel : Nat) → Build Handles
  | 0 => throw .yaml
  | fuel + 1 => do
    match ← peek with
    | .directive d =>
      skip
      match d with
      | .version major _ =>
        if version ∨ major ≠ 1 then throw .yaml else directives true handles fuel
      | .tagHandle handle expansion =>
        if (handles.lookup handle).isSome then throw .yaml
        else directives version ((handle, expansion) :: handles) fuel
      | .other _ => directives version handles fuel
    | _ => return handles ++ defaultHandles

def skipDocumentEnds : (fuel : Nat) → Build Unit
  | 0 => return
  | fuel + 1 => do
    if ← accept .documentEnd then skipDocumentEnds fuel

def document (fuel : Nat) : Build (Option Node) := do
  let isDirective : Token → Bool
    | .directive _ => true
    | _ => false
  let first ← peek
  let root ←
    if first = .streamEnd then return none
    else if isDirective first ∨ first = .documentStart then do
      let handles ← directives false [] fuel
      expect .documentStart
      let token ← peek
      if isDirective token ∨ token = .documentStart ∨ token = .documentEnd ∨ token = .streamEnd then
        pure Node.empty
      else node handles .block fuel
    else node defaultHandles .block fuel
  skipDocumentEnds fuel
  expect .streamEnd
  return some root

end Build

/-- A document: its node at the top, and what its anchors stand on. -/
structure Document where
  root : Node
  anchors : Anchors

def unfolding : Nat := 6

mutual

/-- Puts in place of a reference what it refers to, `inner` telling how that is done. -/
def Node.replaceReferences (inner : String → Node) : Node → Node
  | .scalar tag plain text => .scalar tag plain text
  | .sequence tag items => .sequence tag (replaceInItems inner items)
  | .mapping tag entries => .mapping tag (replaceInEntries inner entries)
  | .reference anchor => inner anchor

def replaceInItems (inner : String → Node) : List Node → List Node
  | [] => []
  | item :: rest => item.replaceReferences inner :: replaceInItems inner rest

def replaceInEntries (inner : String → Node) : List (Node × Node) → List (Node × Node)
  | [] => []
  | (key, item) :: rest =>
    (key.replaceReferences inner, item.replaceReferences inner) :: replaceInEntries inner rest

end

namespace Document

/-- What an anchor stands on, with the references in it followed `times` deep; beyond that it is
empty. -/
def anchored (document : Document) : (times : Nat) → String → Node
  | 0, anchor =>
    match document.anchors.lookup anchor with
    | some (some (.sequence tag _)) => .sequence tag []
    | some (some (.mapping tag _)) => .mapping tag []
    | _ => .empty
  | times + 1, anchor =>
    match document.anchors.lookup anchor with
    | some (some node) => node.replaceReferences (document.anchored times)
    | _ => .empty

def unfolded (document : Document) : Node :=
  document.root.replaceReferences (document.anchored unfolding)

end Document

def parse (text : List Char) : Except Unreadable (Option Document) := do
  let tokens ← tokens text
  let (root, builder) ← StateT.run (Build.document (4 * tokens.length + 8)) ⟨tokens, []⟩
  return root.map fun root => { root, anchors := builder.anchors }

end Codegen.Yaml
