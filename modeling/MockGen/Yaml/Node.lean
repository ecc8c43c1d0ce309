import MockGen.Yaml.Token

/-!
# The nodes of an option file

Scalars, lists and maps with their tags, read from its tokens.  An alias stands for the node of its
anchor.
-/

namespace MockGen.Yaml

/-- A node.  `tag` is the tag that was given to it, if any. -/
inductive Node where
  | scalar (tag : Option String) (plain : Bool) (text : List Char)
  | list (tag : Option String) (items : List Node)
  | map (tag : Option String) (entries : List (Node × Node))
  deriving Inhabited

namespace Node

def empty : Node :=
  scalar none true []

end Node

structure Nodes where
  tokens : List Token
  depth : Nat := 0
  anchors : List (String × Option Node) := []
  handles : List (String × String) := []

namespace Nodes

abbrev NodeM := StateT Nodes (Except Trouble)

private def malformed {α : Type} : NodeM α :=
  throw .malformed

private def next? : NodeM (Option Token) := do
  return (← get).tokens.head?

private def skip : NodeM Unit :=
  modify fun s => { s with tokens := s.tokens.drop 1 }

private structure Properties where
  anchor : Option String := none
  tag : Option String := none

private def tagOf (handle : Option String) (suffix : String) : NodeM String := do
  match handle with
  | none => return suffix
  | some handle =>
    match (← get).handles.lookup handle with
    | some target => return target ++ suffix
    | none => malformed

private def properties : NodeM Properties := do
  match (← get).tokens with
  | .anchor name :: .tag handle suffix :: rest =>
    modify fun s => { s with tokens := rest }
    return ⟨name, ← tagOf handle suffix⟩
  | .tag handle suffix :: .anchor name :: rest =>
    modify fun s => { s with tokens := rest }
    return ⟨name, ← tagOf handle suffix⟩
  | .anchor name :: rest =>
    modify fun s => { s with tokens := rest }
    return { anchor := name }
  | .tag handle suffix :: rest =>
    modify fun s => { s with tokens := rest }
    return { tag := ← tagOf handle suffix }
  | _ => return {}

private inductive Setting where
  | flow
  | block
  | entry
  deriving DecidableEq

private def endsEntry : Option Token → Bool
  | some .key | some .value | some .blockEnd => true
  | _ => false

private def endsItem : Option Token → Bool
  | some .item | some .blockEnd => true
  | _ => false

private def aliased (name : String) : NodeM Node := do
  match (← get).anchors.lookup name with
  | some (some node) => return node
  | _ => malformed

private def openAnchor (name : String) : NodeM Unit := do
  if ((← get).anchors.lookup name).isSome then malformed
  modify fun s => { s with anchors := (name, none) :: s.anchors }

private def closeAnchor (name : String) (node : Node) : NodeM Unit :=
  modify fun s => { s with
    anchors := s.anchors.map fun entry => if entry.1 == name then (name, some node) else entry }

private def given (p : Properties) : Option String :=
  if p.tag == some "!" then none else p.tag

def mostOpen : Nat := 490

private def within (inside : NodeM Node) : NodeM Node := do
  if (← get).depth ≥ mostOpen then throw .tooDeep
  modify fun s => { s with depth := s.depth + 1 }
  let node ← inside
  modify fun s => { s with depth := s.depth - 1 }
  return node

mutual

private def node : (fuel : Nat) → Setting → NodeM Node
  | 0, _ => malformed
  | fuel + 1, setting => do
    if let some (.alias name) := ← next? then
      skip
      return ← aliased name
    let p ← properties
    match p.anchor with
    | none => within (content fuel setting p)
    | some name =>
      openAnchor name
      let node ← within (content fuel setting p)
      closeAnchor name node
      return node

private def content : (fuel : Nat) → Setting → Properties → NodeM Node
  | 0, _, _ => malformed
  | fuel + 1, setting, p => do
    let inBlock := setting != .flow
    match ← next? with
    | some .item =>
      if setting == .entry then return .list (given p) (← looseItems fuel)
      else absent p
    | some (.scalar text plain) =>
      skip
      return .scalar (given p) (plain || p.tag == some "!") text
    | some .flowList =>
      skip
      return .list (given p) (← flowItems fuel true)
    | some .flowMap =>
      skip
      return .map (given p) (← flowEntries fuel true)
    | some .blockList =>
      if inBlock then
        skip
        return .list (given p) (← items fuel)
      else absent p
    | some .blockMap =>
      if inBlock then
        skip
        return .map (given p) (← entries fuel)
      else absent p
    | _ => absent p

private def absent (p : Properties) : NodeM Node :=
  if p.anchor.isNone && p.tag.isNone then malformed
  else return .scalar (given p) true []

private def items : (fuel : Nat) → NodeM (List Node)
  | 0 => malformed
  | fuel + 1 => do
    match ← next? with
    | some .item =>
      skip
      let first ← if endsItem (← next?) then pure Node.empty else node fuel .block
      return first :: (← items fuel)
    | some .blockEnd =>
      skip
      return []
    | _ => malformed

private def looseItems : (fuel : Nat) → NodeM (List Node)
  | 0 => malformed
  | fuel + 1 => do
    match ← next? with
    | some .item =>
      skip
      let after ← next?
      let first ← if endsItem after || endsEntry after then pure Node.empty else node fuel .block
      return first :: (← looseItems fuel)
    | _ => return []

private def entries : (fuel : Nat) → NodeM (List (Node × Node))
  | 0 => malformed
  | fuel + 1 => do
    match ← next? with
    | some .key =>
      skip
      let key ← if endsEntry (← next?) then pure Node.empty else node fuel .entry
      let value ←
        if let some .value := ← next? then
          skip
          if endsEntry (← next?) then pure Node.empty else node fuel .entry
        else pure Node.empty
      return (key, value) :: (← entries fuel)
    | some .blockEnd =>
      skip
      return []
    | _ => malformed

private def flowValue : (fuel : Nat) → (closing : Token → Bool) → NodeM Node
  | 0, _ => malformed
  | fuel + 1, closing => do
    if let some .value := ← next? then
      skip
      match ← next? with
      | some .comma => return Node.empty
      | some t => if closing t then return Node.empty else node fuel .flow
      | none => malformed
    else return Node.empty

private def flowKey : (fuel : Nat) → (closing : Token → Bool) → NodeM Node
  | 0, _ => malformed
  | fuel + 1, closing => do
    match ← next? with
    | some .value | some .comma => return Node.empty
    | some t => if closing t then return Node.empty else node fuel .flow
    | none => malformed

private def flowItems : (fuel : Nat) → (first : Bool) → NodeM (List Node)
  | 0, _ => malformed
  | fuel + 1, first => do
    let closing := fun
      | Token.flowListEnd => true
      | _ => false
    if (← next?).any closing then
      skip
      return []
    if !first then
      let some .comma := ← next? | malformed
      skip
    match ← next? with
    | some .key =>
      skip
      let key ← flowKey fuel closing
      let value ← flowValue fuel closing
      return .map none [(key, value)] :: (← flowItems fuel false)
    | some .flowListEnd =>
      skip
      return []
    | _ =>
      let item ← node fuel .flow
      return item :: (← flowItems fuel false)

private def flowEntries : (fuel : Nat) → (first : Bool) → NodeM (List (Node × Node))
  | 0, _ => malformed
  | fuel + 1, first => do
    let closing := fun
      | Token.flowMapEnd => true
      | _ => false
    if (← next?).any closing then
      skip
      return []
    if !first then
      let some .comma := ← next? | malformed
      skip
    match ← next? with
    | some .key =>
      skip
      let key ← flowKey fuel closing
      let value ← flowValue fuel closing
      return (key, value) :: (← flowEntries fuel false)
    | some .flowMapEnd =>
      skip
      return []
    | _ =>
      let key ← node fuel .flow
      return (key, Node.empty) :: (← flowEntries fuel false)

end

/-! ## Documents -/

private def isDocumentEnd : Token → Bool
  | .documentEnd => true
  | _ => false

private def standardHandles : List (String × String) :=
  [("!", "!"), ("!!", "tag:yaml.org,2002:")]

private def directives : (versioned : Bool) → List Token → Nodes → Except Trouble Nodes
  | versioned, .directive d :: rest, s =>
    match d with
    | .version major =>
      if versioned || major != 1 then .error .malformed else directives true rest s
    | .tag handle target =>
      if (s.handles.lookup handle).isSome then .error .malformed
      else directives versioned rest { s with handles := (handle, target) :: s.handles }
    | .other => directives versioned rest s
  | _, tokens, s => .ok { s with tokens := tokens, handles := s.handles ++ standardHandles }

private def endsDocument : Option Token → Bool
  | none | some (.directive _) | some .documentStart | some .documentEnd => true
  | _ => false

def document (tokens : List Token) : Except Trouble (Option Node) := do
  let fuel := 4 * tokens.length + 4
  let read := fun (s : Nodes) (inside : NodeM Node) => (do
    let (node, s) ← inside.run s
    if (s.tokens.dropWhile isDocumentEnd).isEmpty then return some node
    else .error .malformed : Except Trouble (Option Node))
  match tokens with
  | [] => return none
  | .directive _ :: _ | .documentStart :: _ =>
    let s ← directives false tokens { tokens := [] }
    match s.tokens with
    | .documentStart :: rest =>
      let s := { s with tokens := rest }
      if endsDocument rest.head? then read s (pure Node.empty) else read s (node fuel .block)
    | _ => .error .malformed
  | _ => read { tokens, handles := standardHandles } (node fuel .block)

end Nodes

end MockGen.Yaml
