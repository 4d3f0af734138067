import BoardLint.Yaml.Token

set_option autoImplicit false

/-! # YAML nodes

The nodes of a document: scalars, sequences, mappings and aliases. An alias stands for a node that
has an anchor, and may stand inside that node. A text holds at most one document; a text without any
has no nodes. -/

namespace BoardLint

/-- A node of a YAML document. -/
inductive Yaml where
  | scalar (text : String) (style : Yaml.Style) (tag : Option String)
  | sequence (items : List Yaml) (tag : Option String)
  | mapping (pairs : List (Yaml × Yaml)) (tag : Option String)
  /-- The node with an anchor, which is given by a number. -/
  | alias (id : Nat)
deriving Repr, Inhabited

namespace Yaml

/-- A scalar that is not written at all. -/
def nothing : Yaml := .scalar "" .plain none

/-- The place of a node with an anchor. -/
structure Anchor where
  /-- The number by which aliases refer to it. -/
  id : Nat
  /-- How many anchors stand in front of it. -/
  order : Nat
deriving Repr

/-- What is known while a document is read: the numbers of the names of anchors, the nodes with an
    anchor that are complete, how many anchors there were, and the handles of the tags. -/
structure Context where
  names : List (String × Nat)
  anchored : List (Anchor × Yaml)
  count : Nat
  handles : List (String × String)

namespace Context

/-- The handles that every document has. -/
def defaultHandles : List (String × String) := [("!", "!"), ("!!", "tag:yaml.org,2002:")]

/-- The beginning of a document. -/
def start (handles : List (String × String)) : Context :=
  ⟨[], [], 0, handles ++ defaultHandles⟩

/-- Names a node that begins here. Its number is how many names there were before, so that a number
    is taken again after a name was. -/
def begin (ctx : Context) : Option String → Option Anchor × Context
  | none => (none, ctx)
  | some name =>
    let anchor : Anchor := ⟨ctx.names.length, ctx.count⟩
    let others := ctx.names.filter fun (k, _) => k != name
    (some anchor, { ctx with names := (name, anchor.id) :: others, count := ctx.count + 1 })

/-- Remembers a node that is complete. -/
def remember (ctx : Context) (anchor : Option Anchor) (node : Yaml) : Context :=
  { ctx with anchored := (anchor.map fun a => (a, node)).toList ++ ctx.anchored }

/-- The full tag of a handle and a suffix. -/
def tag? (ctx : Context) (handle suffix : String) : Option String :=
  if handle.isEmpty then some suffix
  else (ctx.handles.find? fun (h, _) => h == handle).map fun (_, address) => address ++ suffix

end Context

/-- A node and what is left after it. -/
structure Parsed where
  node : Yaml
  rest : List Token
  ctx : Context

/-- The anchor and the tag in front of a node, in either order. -/
structure Properties where
  anchor : Option String
  tag : Option String

/-- The properties at the beginning of the tokens. -/
def properties? (ctx : Context) : List Token → Option (Properties × List Token)
  | .anchor a :: .tag h s :: rest => (ctx.tag? h s).map fun t => (⟨some a, some t⟩, rest)
  | .anchor a :: rest => some (⟨some a, none⟩, rest)
  | .tag h s :: .anchor a :: rest => (ctx.tag? h s).map fun t => (⟨some a, some t⟩, rest)
  | .tag h s :: rest => (ctx.tag? h s).map fun t => (⟨none, some t⟩, rest)
  | rest => some (⟨none, none⟩, rest)

/-- Where a node stands: in a block, where block collections may begin; as a value in a block, where
    also a sequence without indentation may begin; or in a flow collection. -/
inductive Place where
  | block
  | blockValue
  | flow
deriving DecidableEq, Repr

/-- Whether the tokens begin with one that ends or separates the parts of a collection, so that a
    node in front of it is empty. -/
def endsPart (place : Place) : List Token → Bool
  | .blockEntry :: _ => place == .block
  | .key :: _ => place == .blockValue
  | .value :: _ => place != .block
  | .blockEnd :: _ => place != .flow
  | .flowEntry :: _ => place == .flow
  | .flowSequenceEnd :: _ => place == .flow
  | .flowMappingEnd :: _ => place == .flow
  | [] => true
  | _ => false

mutual

/-- A node. -/
def node? : Nat → Place → Context → List Token → Option Parsed
  | 0, _, _, _ => none
  | fuel + 1, place, ctx, tokens =>
    match tokens with
    | .alias name :: rest =>
      (ctx.names.find? fun (k, _) => k == name).map fun (_, id) => ⟨.alias id, rest, ctx⟩
    | _ => do
      let (p, rest) ← properties? ctx tokens
      let (anchor, ctx) := ctx.begin p.anchor
      let finish (node : Yaml) (rest : List Token) (ctx : Context) : Parsed :=
        ⟨node, rest, ctx.remember anchor node⟩
      match rest with
      | .blockEntry :: _ =>
        if place == .blockValue then do
          let (items, rest, ctx) ← looseItems? fuel ctx rest
          some (finish (.sequence items p.tag) rest ctx)
        else if p.anchor.isSome || p.tag.isSome then
          some (finish (.scalar "" .plain p.tag) rest ctx)
        else none
      | .scalar text style :: rest =>
        some (finish (.scalar text style p.tag) rest ctx)
      | .flowSequenceStart :: rest => do
        let (items, rest, ctx) ← flowItems? fuel true ctx rest
        some (finish (.sequence items p.tag) rest ctx)
      | .flowMappingStart :: rest => do
        let (pairs, rest, ctx) ← flowPairs? fuel true ctx rest
        some (finish (.mapping pairs p.tag) rest ctx)
      | .blockSequenceStart :: more =>
        if place == .flow then none
        else do
          let (items, rest, ctx) ← blockItems? fuel ctx more
          some (finish (.sequence items p.tag) rest ctx)
      | .blockMappingStart :: more =>
        if place == .flow then none
        else do
          let (pairs, rest, ctx) ← blockPairs? fuel ctx more
          some (finish (.mapping pairs p.tag) rest ctx)
      | rest =>
        if p.anchor.isSome || p.tag.isSome then some (finish (.scalar "" .plain p.tag) rest ctx)
        else none

/-- A node, or nothing when the collection goes on without one. -/
def part? : Nat → Place → Context → List Token → Option Parsed
  | 0, _, _, _ => none
  | fuel + 1, place, ctx, tokens =>
    if endsPart place tokens then some ⟨nothing, tokens, ctx⟩ else node? fuel place ctx tokens

/-- The items of a block sequence. -/
def blockItems? : Nat → Context → List Token → Option (List Yaml × List Token × Context)
  | 0, _, _ => none
  | fuel + 1, ctx, tokens =>
    match tokens with
    | .blockEntry :: rest => do
      let item ← part? fuel .block ctx rest
      let (items, rest, ctx) ← blockItems? fuel item.ctx item.rest
      some (item.node :: items, rest, ctx)
    | .blockEnd :: rest => some ([], rest, ctx)
    | _ => none

/-- The items of a sequence without indentation, which ends with the mapping around it or its next
    key. -/
def looseItems? : Nat → Context → List Token → Option (List Yaml × List Token × Context)
  | 0, _, _ => none
  | fuel + 1, ctx, tokens =>
    match tokens with
    | .blockEntry :: rest => do
      let item ←
        match rest with
        | .blockEntry :: _ => some ⟨nothing, rest, ctx⟩
        | .key :: _ => some ⟨nothing, rest, ctx⟩
        | .value :: _ => some ⟨nothing, rest, ctx⟩
        | .blockEnd :: _ => some ⟨nothing, rest, ctx⟩
        | _ => node? fuel .block ctx rest
      let (items, rest, ctx) ← looseItems? fuel item.ctx item.rest
      some (item.node :: items, rest, ctx)
    | _ => some ([], tokens, ctx)

/-- The pairs of a block mapping. -/
def blockPairs? : Nat → Context → List Token → Option (List (Yaml × Yaml) × List Token × Context)
  | 0, _, _ => none
  | fuel + 1, ctx, tokens =>
    match tokens with
    | .key :: rest => do
      let key ← part? fuel .blockValue ctx rest
      let value ←
        match key.rest with
        | .value :: rest => part? fuel .blockValue key.ctx rest
        | rest => some ⟨nothing, rest, key.ctx⟩
      let (pairs, rest, ctx) ← blockPairs? fuel value.ctx value.rest
      some ((key.node, value.node) :: pairs, rest, ctx)
    | .blockEnd :: rest => some ([], rest, ctx)
    | _ => none

/-- The items of a flow sequence; a pair among them is a mapping of its own. -/
def flowItems? : Nat → Bool → Context → List Token → Option (List Yaml × List Token × Context)
  | 0, _, _, _ => none
  | fuel + 1, first, ctx, tokens =>
    match tokens with
    | .flowSequenceEnd :: rest => some ([], rest, ctx)
    | _ => do
      let tokens ←
        match first, tokens with
        | true, tokens => some tokens
        | false, .flowEntry :: rest => some rest
        | false, _ => none
      match tokens with
      | .flowSequenceEnd :: rest => some ([], rest, ctx)
      | .key :: rest => do
        let pair ← flowPair? fuel ctx rest
        let (items, rest, ctx) ← flowItems? fuel false pair.ctx pair.rest
        some (pair.node :: items, rest, ctx)
      | _ => do
        let item ← node? fuel .flow ctx tokens
        let (items, rest, ctx) ← flowItems? fuel false item.ctx item.rest
        some (item.node :: items, rest, ctx)

/-- A pair in a flow sequence after its mark, as a mapping. -/
def flowPair? : Nat → Context → List Token → Option Parsed
  | 0, _, _ => none
  | fuel + 1, ctx, tokens => do
    let key ← part? fuel .flow ctx tokens
    let value ←
      match key.rest with
      | .value :: rest => part? fuel .flow key.ctx rest
      | rest => some ⟨nothing, rest, key.ctx⟩
    some ⟨.mapping [(key.node, value.node)] none, value.rest, value.ctx⟩

/-- The pairs of a flow mapping. A node without a colon is a key without a value. -/
def flowPairs? : Nat → Bool → Context → List Token →
    Option (List (Yaml × Yaml) × List Token × Context)
  | 0, _, _, _ => none
  | fuel + 1, first, ctx, tokens =>
    match tokens with
    | .flowMappingEnd :: rest => some ([], rest, ctx)
    | _ => do
      let tokens ←
        match first, tokens with
        | true, tokens => some tokens
        | false, .flowEntry :: rest => some rest
        | false, _ => none
      match tokens with
      | .flowMappingEnd :: rest => some ([], rest, ctx)
      | .key :: rest => do
        let key ← part? fuel .flow ctx rest
        let value ←
          match key.rest with
          | .value :: rest => part? fuel .flow key.ctx rest
          | rest => some ⟨nothing, rest, key.ctx⟩
        let (pairs, rest, ctx) ← flowPairs? fuel false value.ctx value.rest
        some ((key.node, value.node) :: pairs, rest, ctx)
      | _ => do
        let key ← node? fuel .flow ctx tokens
        let (pairs, rest, ctx) ← flowPairs? fuel false key.ctx key.rest
        some ((key.node, nothing) :: pairs, rest, ctx)

end

/-! ## Documents -/

/-- The handles that the directives of a document define, and whether they give a version. A handle
    or a version is given once, and the version is 1.1 or 1.2. -/
def directives? (version : Bool) (handles : List (String × String)) :
    List Token → Option (List (String × String) × Bool × List Token)
  | .version major minor :: rest =>
    if version || major != 1 || !(minor == 1 || minor == 2) then none
    else directives? true handles rest
  | .tagHandle h address :: rest =>
    if handles.any fun (k, _) => k == h then none
    else directives? version (handles ++ [(h, address)]) rest
  | rest => some (handles, version || !handles.isEmpty, rest)

/-- Whether the tokens begin with one that ends a document. -/
def endsDocument : List Token → Bool
  | [] => true
  | .documentStart :: _ => true
  | .documentEnd :: _ => true
  | .version .. :: _ => true
  | .tagHandle .. :: _ => true
  | _ => false

/-- A document: its node, and the nodes with an anchor by their numbers. -/
structure Document where
  root : Yaml
  anchors : List (Nat × Yaml)
deriving Repr

/-- The document of a node. Of the nodes with one number that counts which begins last. -/
def Document.ofParsed (p : Parsed) : Document :=
  let latest := p.ctx.anchored.mergeSort fun a b => b.1.order ≤ a.1.order
  ⟨p.node, latest.map fun (a, node) => (a.id, node)⟩

/-- The only document of a list of tokens; nothing may follow but marks of its end. -/
def ofTokens? (tokens : List Token) : Option (Option Document) := do
  let isEnd (t : Token) : Bool := t == .documentEnd
  let (handles, directed, rest) ← directives? false [] tokens
  let (explicit, rest) := match rest with
    | .documentStart :: rest => (true, rest)
    | _ => (false, rest)
  if directed && !explicit then none
  else if !explicit && rest.isEmpty then some none
  else
    let ctx := Context.start handles
    let parsed ←
      if explicit && endsDocument rest then some ⟨nothing, rest, ctx⟩
      else node? (6 * (rest.length + 1)) .block ctx rest
    match parsed.rest.dropWhile isEnd with
    | [] => some (some (.ofParsed parsed))
    | _ => none

/-- The document of a YAML text, none when the text has no document. -/
def parse? (text : String) : Option (Option Document) := do
  ofTokens? (← tokens? text.toList)

end Yaml

end BoardLint
