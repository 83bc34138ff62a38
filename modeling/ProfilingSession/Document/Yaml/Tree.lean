import ProfilingSession.Document.Yaml.Token

/-!
# From tokens to the tree of a YAML text

`tree?` reads the tokens of a text as at most one document and gives its tree: scalars with their
text and tag, collections, and aliases by name. It gives `none` where the tokens are not those of
one document.
-/

namespace ProfilingSession.Document.Yaml

/-- What may stand before a node: a name for it and a tag. -/
structure Props where
  anchor : Option String
  tag : Option (List UInt8)

inductive Tree where
  | scalar (props : Props) (text : String) (plain : Bool)
  | alias (name : String)
  | sequence (props : Props) (items : List Tree)
  | mapping (props : Props) (entries : List (Tree × Tree))

instance : Inhabited Tree := ⟨.alias ""⟩

/-- No name and no tag. -/
def Props.none : Props := ⟨Option.none, Option.none⟩

/-- The scalar that stands where nothing is written. -/
def Tree.empty : Tree := .scalar Props.none "" true

abbrev Handles := List (String × List UInt8)

/-- The handles that need no directive. -/
def defaultHandles : Handles :=
  [("!", "!".toUTF8.toList), ("!!", "tag:yaml.org,2002:".toUTF8.toList)]

/-- The bytes of a tag; its handle has to be known. -/
def resolveTag (handles : Handles) (handle : String) (bytes : List UInt8) :
    Option (List UInt8) :=
  if handle.isEmpty then some bytes
  else (handles.find? fun known => known.1 == handle).map fun known => known.2 ++ bytes

/-- Reads the name and the tag before a node, in either order. -/
def props? (handles : Handles) : List Token → Option (Props × List Token)
  | .anchor name :: .tag handle bytes :: rest => do
    return (⟨some name, some (← resolveTag handles handle bytes)⟩, rest)
  | .tag handle bytes :: .anchor name :: rest => do
    return (⟨some name, some (← resolveTag handles handle bytes)⟩, rest)
  | .anchor name :: rest => some (⟨some name, none⟩, rest)
  | .tag handle bytes :: rest => do
    return (⟨none, some (← resolveTag handles handle bytes)⟩, rest)
  | rest => some (Props.none, rest)

/-- Whether the next token ends what may be left out before it. -/
def nextIn (stops : List Token) (tokens : List Token) : Bool :=
  match tokens with
  | token :: _ => stops.contains token
  | [] => false

mutual

/-- Reads a node. Block collections are read where `block` is set, and where `indentless` is set
also a sequence whose items are not indented. The count bounds nested calls. -/
def node (handles : Handles) :
    (bound : Nat) → (block indentless : Bool) → List Token → Option (Tree × List Token)
  | 0, _, _, _ => none
  | bound + 1, block, indentless, tokens =>
    match tokens with
    | .alias name :: rest => some (.alias name, rest)
    | _ => do
      let (props, rest) ← props? handles tokens
      match rest with
      | .blockEntry :: _ =>
        if indentless then
          let (items, after) ← looseItems handles bound rest
          return (.sequence props items, after)
        else if props.anchor.isSome || props.tag.isSome then
          return (.scalar props "" true, rest)
        else none
      | .scalar content plain :: after => return (.scalar props content plain, after)
      | .flowSequenceStart :: after =>
        let (items, after) ← flowItems handles bound true after
        return (.sequence props items, after)
      | .flowMappingStart :: after =>
        let (entries, after) ← flowEntries handles bound true after
        return (.mapping props entries, after)
      | other =>
        match block, other with
        | true, .sequenceStart :: after =>
          let (items, after) ← blockItems handles bound after
          return (.sequence props items, after)
        | true, .mappingStart :: after =>
          let (entries, after) ← blockEntries handles bound after
          return (.mapping props entries, after)
        | _, _ =>
          if props.anchor.isSome || props.tag.isSome then return (.scalar props "" true, rest)
          else none

/-- Reads a node, or nothing before one of the given tokens. -/
def nodeUnless (handles : Handles) :
    (bound : Nat) → (stops : List Token) → (block indentless : Bool) → List Token →
      Option (Tree × List Token)
  | 0, _, _, _, _ => none
  | bound + 1, stops, block, indentless, tokens =>
    if nextIn stops tokens then some (Tree.empty, tokens)
    else node handles bound block indentless tokens

def blockItems (handles : Handles) :
    (bound : Nat) → List Token → Option (List Tree × List Token)
  | 0, _ => none
  | bound + 1, tokens =>
    match tokens with
    | .blockEntry :: rest => do
      let (item, rest) ← nodeUnless handles bound [.blockEntry, .blockEnd] true false rest
      let (items, rest) ← blockItems handles bound rest
      return (item :: items, rest)
    | .blockEnd :: rest => some ([], rest)
    | _ => none

def looseItems (handles : Handles) :
    (bound : Nat) → List Token → Option (List Tree × List Token)
  | 0, _ => none
  | bound + 1, tokens =>
    match tokens with
    | .blockEntry :: rest => do
      let (item, rest) ←
        nodeUnless handles bound [.blockEntry, .key, .value, .blockEnd] true false rest
      let (items, rest) ← looseItems handles bound rest
      return (item :: items, rest)
    | _ => some ([], tokens)

def blockEntries (handles : Handles) :
    (bound : Nat) → List Token → Option (List (Tree × Tree) × List Token)
  | 0, _ => none
  | bound + 1, tokens =>
    match tokens with
    | .key :: rest => do
      let (key, rest) ← nodeUnless handles bound [.key, .value, .blockEnd] true true rest
      let (value, rest) ← match rest with
        | .value :: rest => nodeUnless handles bound [.key, .value, .blockEnd] true true rest
        | _ => some (Tree.empty, rest)
      let (entries, rest) ← blockEntries handles bound rest
      return ((key, value) :: entries, rest)
    | .blockEnd :: rest => some ([], rest)
    | _ => none

/-- Reads the items of a sequence in brackets. -/
def flowItems (handles : Handles) :
    (bound : Nat) → (first : Bool) → List Token → Option (List Tree × List Token)
  | 0, _, _ => none
  | bound + 1, first, tokens =>
    match tokens with
    | .flowSequenceEnd :: rest => some ([], rest)
    | _ => do
      let tokens ←
        if first then some tokens
        else match tokens with
          | .flowEntry :: rest => some rest
          | _ => none
      match tokens with
      | .flowSequenceEnd :: rest => return ([], rest)
      | .key :: rest =>
        let (pair, rest) ← flowPair handles bound rest
        let (items, rest) ← flowItems handles bound false rest
        return (pair :: items, rest)
      | _ =>
        let (item, rest) ← node handles bound false false tokens
        let (items, rest) ← flowItems handles bound false rest
        return (item :: items, rest)

/-- Reads a mapping of one entry among the items of a sequence in brackets. A key that is left
out takes the token after it along. -/
def flowPair (handles : Handles) : (bound : Nat) → List Token → Option (Tree × List Token)
  | 0, _ => none
  | bound + 1, tokens => do
    let (key, rest) ←
      if nextIn [.value, .flowEntry, .flowSequenceEnd] tokens then
        some (Tree.empty, tokens.drop 1)
      else node handles bound false false tokens
    let (value, rest) ← match rest with
      | .value :: rest => nodeUnless handles bound [.flowEntry, .flowSequenceEnd] false false rest
      | _ => some (Tree.empty, rest)
    return (.mapping Props.none [(key, value)], rest)

/-- Reads the entries of a mapping in braces. -/
def flowEntries (handles : Handles) :
    (bound : Nat) → (first : Bool) → List Token → Option (List (Tree × Tree) × List Token)
  | 0, _, _ => none
  | bound + 1, first, tokens =>
    match tokens with
    | .flowMappingEnd :: rest => some ([], rest)
    | _ => do
      let tokens ←
        if first then some tokens
        else match tokens with
          | .flowEntry :: rest => some rest
          | _ => none
      match tokens with
      | .flowMappingEnd :: rest => return ([], rest)
      | .key :: rest =>
        let (key, rest) ←
          nodeUnless handles bound [.value, .flowEntry, .flowMappingEnd] false false rest
        let (value, rest) ← match rest with
          | .value :: rest =>
            nodeUnless handles bound [.flowEntry, .flowMappingEnd] false false rest
          | _ => some (Tree.empty, rest)
        let (entries, rest) ← flowEntries handles bound false rest
        return ((key, value) :: entries, rest)
      | _ =>
        let (key, rest) ← node handles bound false false tokens
        let (entries, rest) ← flowEntries handles bound false rest
        return ((key, Tree.empty) :: entries, rest)

end

/-- Reads the directives before a document: the handles they name, each at most once, and a
version that is known. -/
def directives (versionSeen : Bool) (handles : Handles) :
    List Token → Option (Handles × List Token)
  | .version major minor :: rest =>
    if versionSeen || major ≠ 1 || (minor ≠ 1 && minor ≠ 2) then none
    else directives true handles rest
  | .handle name bytes :: rest =>
    if handles.any fun known => known.1 == name then none
    else directives versionSeen (handles ++ [(name, bytes)]) rest
  | rest => some (handles, rest)

/-- The tree of a document that starts at the given tokens, and what follows it. -/
def document (tokens : List Token) : Option (Tree × List Token) :=
  let bound := 4 * tokens.length + 4
  let explicit := match tokens with
    | .version .. :: _ | .handle .. :: _ | .documentStart :: _ => true
    | _ => false
  if explicit then do
    let (handles, rest) ← directives false [] tokens
    match rest with
    | .documentStart :: rest =>
      let empty := match rest with
        | .version .. :: _ | .handle .. :: _ | .documentStart :: _ | .documentEnd :: _
        | .streamEnd :: _ => true
        | _ => false
      if empty then return (Tree.empty, rest)
      else node (handles ++ defaultHandles) bound true false rest
    | _ => none
  else node defaultHandles bound true false tokens

/-- What the tokens of a text say: nothing, or the tree of one document. -/
def tree? (tokens : List Token) : Option (Option Tree) :=
  match tokens with
  | [.streamEnd] => some none
  | _ => do
    let (tree, rest) ← document tokens
    if rest.dropWhile (· = .documentEnd) = [.streamEnd] then return some tree else none

end ProfilingSession.Document.Yaml
