import BrowserPods.Yaml.Token

/-!
The documents of a YAML text as trees.  An alias stays in the tree; what it stands for is looked up
among the anchored nodes of its document (`Document.target?`).
-/

namespace BrowserPods.Yaml

inductive Node where
  | scalar (style : ScalarStyle) (tag : Option (List Char)) (text : List Char)
  | sequence (tag : Option (List Char)) (items : List Node)
  | mapping (tag : Option (List Char)) (pairs : List (Node × Node))
  /-- An alias of the anchored node with that number. -/
  | alias (anchor : Nat)
deriving Repr

namespace Node

instance : Inhabited Node := ⟨.alias 0⟩

/-- The node of a place where nothing is written. -/
def blank : Node := .scalar .plain none []

end Node

structure Document where
  root : Node
  /-- The anchored nodes by their numbers. -/
  anchored : List (Nat × Node) := []
deriving Repr

/-- What a node stands for: itself, or the node that it is an alias of. -/
def Document.target? (document : Document) : Node → Option Node
  | .alias anchor => document.anchored.lookup anchor
  | node => some node

structure Builder where
  tokens : List Token
  /-- The handles of tags with what they stand for. -/
  handles : List (List Char × List Char) := []
  /-- The anchors so far with their numbers, latest first. -/
  names : List (List Char × Nat) := []
  count : Nat := 0
  anchored : List (Nat × Node) := []

namespace Builder

def peek? (builder : Builder) : Option Token := builder.tokens.head?

def advance (builder : Builder) : Builder := { builder with tokens := builder.tokens.drop 1 }

def atAny (builder : Builder) (tokens : List Token) : Bool :=
  builder.peek?.any fun token => tokens.contains token

def standardHandles : List (List Char × List Char) :=
  [(['!'], ['!']), (['!', '!'], "tag:yaml.org,2002:".toList)]

/-- The full tag of a handle and what follows it. -/
def resolveTag? (builder : Builder) (handle suffix : List Char) : Option (List Char) :=
  if handle.isEmpty then some suffix
  else
    let start :=
      (builder.handles.lookup handle).or (standardHandles.lookup handle)
    start.map (· ++ suffix)

structure Properties where
  tag : Option (List Char) := none
  anchor : Option (List Char) := none

/-- Reads a tag and an anchor, in either order and at most once each. -/
def properties? (builder : Builder) : Option (Properties × Builder) :=
  match builder.tokens with
  | .anchor name :: .tag handle suffix :: rest =>
    (builder.resolveTag? handle suffix).map fun tag =>
      ({ tag := some tag, anchor := some name }, { builder with tokens := rest })
  | .anchor name :: rest => some ({ anchor := some name }, { builder with tokens := rest })
  | .tag handle suffix :: .anchor name :: rest =>
    (builder.resolveTag? handle suffix).map fun tag =>
      ({ tag := some tag, anchor := some name }, { builder with tokens := rest })
  | .tag handle suffix :: rest =>
    (builder.resolveTag? handle suffix).map fun tag =>
      ({ tag := some tag }, { builder with tokens := rest })
  | _ => some ({}, builder)

/-- Numbers an anchor where its node begins, so that aliases within the node may name it. -/
def declare (builder : Builder) : Option (List Char) → Option Nat × Builder
  | none => (none, builder)
  | some name =>
    (some builder.count,
      { builder with names := (name, builder.count) :: builder.names, count := builder.count + 1 })

def keep (builder : Builder) (number : Option Nat) (node : Node) : Builder :=
  match number with
  | none => builder
  | some n => { builder with anchored := (n, node) :: builder.anchored }

mutual

/-- Builds a node.  Block collections are admitted if `block` says so; the entries of a sequence
that stand at the column of their key make one if `indentless` says so. -/
def node? : Nat → Bool → Bool → Builder → Option (Node × Builder)
  | 0, _, _, _ => none
  | fuel + 1, block, indentless, builder =>
    match builder.peek? with
    | some (.alias name) => (builder.names.lookup name).map fun n => (.alias n, builder.advance)
    | _ =>
      (properties? builder).bind fun (properties, builder₁) =>
        let (number, builder₂) := builder₁.declare properties.anchor
        let tag := properties.tag
        let built : Option (Node × Builder) :=
          match builder₂.peek? with
          | some (.scalar style text) => some (.scalar style tag text, builder₂.advance)
          | some .flowSequenceStart =>
            (flowItems? fuel true [] builder₂.advance).map fun (items, rest) =>
              (.sequence tag items, rest)
          | some .flowMappingStart =>
            (flowPairs? fuel true [] builder₂.advance).map fun (pairs, rest) =>
              (.mapping tag pairs, rest)
          | some .blockEntry =>
            if indentless then
              (entries? fuel true [] builder₂).map fun (items, rest) => (.sequence tag items, rest)
            else if properties.tag.isSome || properties.anchor.isSome then
              some (.scalar .plain tag [], builder₂)
            else none
          | some .blockSequenceStart =>
            if block then
              (entries? fuel false [] builder₂.advance).map fun (items, rest) =>
                (.sequence tag items, rest)
            else if properties.tag.isSome || properties.anchor.isSome then
              some (.scalar .plain tag [], builder₂)
            else none
          | some .blockMappingStart =>
            if block then
              (pairs? fuel [] builder₂.advance).map fun (pairs, rest) => (.mapping tag pairs, rest)
            else if properties.tag.isSome || properties.anchor.isSome then
              some (.scalar .plain tag [], builder₂)
            else none
          | _ =>
            if properties.tag.isSome || properties.anchor.isSome then
              some (.scalar .plain tag [], builder₂)
            else none
        built.map fun (node, rest) => (node, rest.keep number node)

/-- Builds the entries of a block sequence, in reverse after `done`.  One without an indentation of
its own ends where no entry follows, any other at its end token. -/
def entries? : Nat → Bool → List Node → Builder → Option (List Node × Builder)
  | 0, _, _, _ => none
  | fuel + 1, indentless, done, builder =>
    match builder.peek? with
    | some .blockEntry =>
      let next := builder.advance
      let ends :=
        if indentless then next.atAny [.blockEntry, .key, .value, .blockEnd]
        else next.atAny [.blockEntry, .blockEnd]
      if ends then entries? fuel indentless (.blank :: done) next
      else
        (node? fuel true false next).bind fun (item, rest) =>
          entries? fuel indentless (item :: done) rest
    | some .blockEnd =>
      if indentless then some (done.reverse, builder) else some (done.reverse, builder.advance)
    | _ => if indentless then some (done.reverse, builder) else none

/-- Builds the pairs of a block mapping, in reverse after `done`. -/
def pairs? : Nat → List (Node × Node) → Builder → Option (List (Node × Node) × Builder)
  | 0, _, _ => none
  | fuel + 1, done, builder =>
    let pairEnds : List Token := [.key, .value, .blockEnd]
    let keyed : Option (Node × Builder) :=
      match builder.peek? with
      | some .key =>
        let next := builder.advance
        if next.atAny pairEnds then some (.blank, next) else node? fuel true true next
      | _ => none
    match builder.peek? with
    | some .blockEnd => some (done.reverse, builder.advance)
    | _ =>
      keyed.bind fun (key, builder₁) =>
        match builder₁.peek? with
        | some .value =>
          let next := builder₁.advance
          if next.atAny pairEnds then pairs? fuel ((key, .blank) :: done) next
          else
            (node? fuel true true next).bind fun (value, rest) =>
              pairs? fuel ((key, value) :: done) rest
        | _ => pairs? fuel ((key, .blank) :: done) builder₁

/-- Builds the items of a flow sequence, in reverse after `done`.  A pair among them is a mapping
of its own. -/
def flowItems? : Nat → Bool → List Node → Builder → Option (List Node × Builder)
  | 0, _, _, _ => none
  | fuel + 1, first, done, builder =>
    if builder.atAny [.flowSequenceEnd] then some (done.reverse, builder.advance)
    else if !first && !builder.atAny [.flowEntry] then none
    else
      let builder₁ := if first then builder else builder.advance
      match builder₁.peek? with
      | some .flowSequenceEnd => some (done.reverse, builder₁.advance)
      | some .key =>
        let next := builder₁.advance
        let keyed : Option (Node × Builder) :=
          if next.atAny [.value, .flowEntry, .flowSequenceEnd] then some (.blank, next.advance)
          else node? fuel false false next
        keyed.bind fun (key, builder₂) =>
          if builder₂.atAny [.value] then
            let next₂ := builder₂.advance
            if next₂.atAny [.flowEntry, .flowSequenceEnd] then
              flowItems? fuel false (.mapping none [(key, .blank)] :: done) next₂
            else
              (node? fuel false false next₂).bind fun (value, rest) =>
                flowItems? fuel false (.mapping none [(key, value)] :: done) rest
          else flowItems? fuel false (.mapping none [(key, .blank)] :: done) builder₂
      | _ =>
        (node? fuel false false builder₁).bind fun (item, rest) =>
          flowItems? fuel false (item :: done) rest

/-- Builds the pairs of a flow mapping, in reverse after `done`. -/
def flowPairs? : Nat → Bool → List (Node × Node) → Builder →
    Option (List (Node × Node) × Builder)
  | 0, _, _, _ => none
  | fuel + 1, first, done, builder =>
    if builder.atAny [.flowMappingEnd] then some (done.reverse, builder.advance)
    else if !first && !builder.atAny [.flowEntry] then none
    else
      let builder₁ := if first then builder else builder.advance
      match builder₁.peek? with
      | some .flowMappingEnd => some (done.reverse, builder₁.advance)
      | some .key =>
        let next := builder₁.advance
        let keyed : Option (Node × Builder) :=
          if next.atAny [.value, .flowEntry, .flowMappingEnd] then some (.blank, next)
          else node? fuel false false next
        keyed.bind fun (key, builder₂) =>
          if builder₂.atAny [.value] then
            let next₂ := builder₂.advance
            if next₂.atAny [.flowEntry, .flowMappingEnd] then
              flowPairs? fuel false ((key, .blank) :: done) next₂
            else
              (node? fuel false false next₂).bind fun (value, rest) =>
                flowPairs? fuel false ((key, value) :: done) rest
          else flowPairs? fuel false ((key, .blank) :: done) builder₂
      | _ =>
        (node? fuel false false builder₁).bind fun (key, rest) =>
          flowPairs? fuel false ((key, .blank) :: done) rest

end

/-! ## Documents -/

/-- Reads the directives in front of a document: at most one version, which must be 1.1 or 1.2, and
each handle at most once. -/
def directives? (versionSeen : Bool) : List Token → List (List Char × List Char) →
    Option (List (List Char × List Char) × List Token)
  | .versionDirective major minor :: rest, handles =>
    if versionSeen || major != 1 || (minor != 1 && minor != 2) then none
    else directives? true rest handles
  | .tagDirective handle start :: rest, handles =>
    if (handles.lookup handle).isSome then none
    else directives? versionSeen rest ((handle, start) :: handles)
  | tokens, handles => some (handles, tokens)

def isBoundary : Token → Bool
  | .versionDirective _ _ => true
  | .tagDirective _ _ => true
  | .documentStart => true
  | .documentEnd => true
  | _ => false

/-- Builds the root of a document.  Behind a marker nothing need be written. -/
def root? (marked : Bool) (builder : Builder) : Option (Node × Builder) :=
  if marked && builder.peek?.all isBoundary then some (.blank, builder)
  else builder.node? (2 * builder.tokens.length + 4) true false

/-- Builds the documents of a list of tokens, in reverse after `done`.  Only the first may begin
without a marker. -/
def documents? : Nat → Bool → List Document → List Token → Option (List Document)
  | 0, _, _, _ => none
  | fuel + 1, first, done, tokens =>
    let remaining := if first then tokens else tokens.dropWhile (· == .documentEnd)
    match remaining with
    | [] => some done.reverse
    | token :: _ =>
      let unmarked := first && (!isBoundary token || token == .documentEnd)
      let opened : Option (List (List Char × List Char) × List Token) :=
        if unmarked then some ([], remaining)
        else
          match directives? false remaining [] with
          | some (handles, .documentStart :: rest) => some (handles, rest)
          | _ => none
      opened.bind fun (handles, tokens₁) =>
        (root? (!unmarked) { tokens := tokens₁, handles }).bind fun (root, builder) =>
          documents? fuel false ({ root, anchored := builder.anchored } :: done) builder.tokens

end Builder

def Document.ofText? (text : String) : Option (List Document) :=
  (Token.ofText? text).bind fun tokens => Builder.documents? (tokens.length + 2) true [] tokens

end BrowserPods.Yaml
