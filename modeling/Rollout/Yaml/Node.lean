import Rollout.Yaml.Token

/-!
# Nodes of Yaml

The tree that the tokens of a document spell. An anchor names a node and an alias stands for the
node of a name; the names are texts in what is read, and numbers once each alias has been tied to
its anchor (`Node.number?`).

The grammar is read by recursive descent: each reader takes the tokens at its place and answers a
tree with the tokens behind it, or nothing where the tokens break the grammar. Every call reads a
token or is at most two calls away from one that does, which bounds the fuel.
-/

namespace Rollout.Yaml

/-- What may stand before a node: an anchor and a tag. -/
structure Properties (α : Type) where
  anchor : Option α
  tag : Option Tag
  deriving Repr

/-- A node, with anchors of type `α`. -/
inductive Node (α : Type)
  | alias (anchor : α)
  | scalar (props : Properties α) (text : String) (plain : Bool)
  | sequence (props : Properties α) (items : List (Node α))
  | mapping (props : Properties α) (pairs : List (Node α × Node α))
  deriving Repr

/-- A node of which nothing is written. -/
def Node.empty {α : Type} : Node α := .scalar ⟨none, none⟩ "" true

/-! ### Properties -/

/-- The tags that the handles of a document stand for. -/
abbrev Handles : Type := List (String × Tag)

/-- The tag of a handle and what follows it; a tag without handle stands for itself. -/
def resolveTag? (handles : Handles) (handle : String) (suffix : Tag) : Option Tag :=
  if handle.isEmpty then some suffix else (handles.lookup handle).map (· ++ suffix)

/-- Reads an anchor and a tag, in either order, each at most once. -/
def readProperties (handles : Handles) :
    List Token → Option (Properties String × List Token)
  | .anchor name :: .tag handle suffix :: rest
  | .tag handle suffix :: .anchor name :: rest =>
    (resolveTag? handles handle suffix).map fun tag => (⟨some name, some tag⟩, rest)
  | .anchor name :: rest => some (⟨some name, none⟩, rest)
  | .tag handle suffix :: rest =>
    (resolveTag? handles handle suffix).map fun tag => (⟨none, some tag⟩, rest)
  | tokens => some (⟨none, none⟩, tokens)

/-! ### Where nothing is written -/

/-- Whether an item of a block sequence has nothing written. -/
def noItem : List Token → Bool
  | .blockEntry :: _ | .blockEnd :: _ => true
  | _ => false

/-- Whether a key or a value of a block has nothing written. -/
def noEntry : List Token → Bool
  | .key :: _ | .value :: _ | .blockEnd :: _ => true
  | _ => false

/-- Whether an item of a sequence in the column of its parent has nothing written. -/
def noSibling (tokens : List Token) : Bool :=
  match tokens with
  | .blockEntry :: _ => true
  | _ => noEntry tokens

/-- Whether a value between brackets has nothing written. -/
def noFlowValue (close : Token) : List Token → Bool
  | t :: _ => t = .flowEntry || t = close
  | [] => false

/-- Whether a key between brackets has nothing written. -/
def noFlowKey (close : Token) (tokens : List Token) : Bool :=
  match tokens with
  | .value :: _ => true
  | _ => noFlowValue close tokens

/-- The tokens behind the comma that separates entries between brackets; before the first entry
there is none. -/
def afterComma : (first : Bool) → List Token → Option (List Token)
  | true, tokens => some tokens
  | false, .flowEntry :: rest => some rest
  | false, _ => none

/-! ### The grammar -/

mutual
/-- Reads a node. Inside brackets there are no blocks, and only as an entry of a mapping may a
block sequence stand in the column of its parent. -/
def readNode (handles : Handles) : (fuel : Nat) → (block sibling : Bool) → List Token →
    Option (Node String × List Token)
  | 0, _, _, _ => none
  | _ + 1, _, _, .alias name :: rest => some (.alias name, rest)
  | fuel + 1, block, sibling, tokens => do
    let (props, tokens) ← readProperties handles tokens
    match tokens with
    | .scalar text plain :: rest => some (.scalar props text plain, rest)
    | .flowSequenceStart :: rest =>
      let (items, rest) ← readFlowItems handles fuel true rest
      some (.sequence props items, rest)
    | .flowMappingStart :: rest =>
      let (pairs, rest) ← readFlowPairs handles fuel true rest
      some (.mapping props pairs, rest)
    | t :: rest =>
      if sibling ∧ t = .blockEntry then
        let (items, rest) ← readSiblings handles fuel tokens
        some (.sequence props items, rest)
      else if block ∧ t = .blockSequenceStart then
        let (items, rest) ← readItems handles fuel rest
        some (.sequence props items, rest)
      else if block ∧ t = .blockMappingStart then
        let (pairs, rest) ← readPairs handles fuel rest
        some (.mapping props pairs, rest)
      else if props.anchor.isSome ∨ props.tag.isSome then some (.scalar props "" true, tokens)
      else none
    | [] => none

/-- Reads the items of a block sequence and its end. -/
def readItems (handles : Handles) : (fuel : Nat) → List Token → Option (List (Node String) × List Token)
  | fuel + 1, .blockEntry :: rest => do
    let (item, rest) ←
      if noItem rest then some (Node.empty, rest) else readNode handles fuel true false rest
    let (items, rest) ← readItems handles fuel rest
    some (item :: items, rest)
  | _ + 1, .blockEnd :: rest => some ([], rest)
  | _, _ => none

/-- Reads the items of a sequence in the column of its parent. -/
def readSiblings (handles : Handles) : (fuel : Nat) → List Token → Option (List (Node String) × List Token)
  | 0, _ => none
  | fuel + 1, .blockEntry :: rest => do
    let (item, rest) ←
      if noSibling rest then some (Node.empty, rest) else readNode handles fuel true false rest
    let (items, rest) ← readSiblings handles fuel rest
    some (item :: items, rest)
  | _ + 1, rest => some ([], rest)

/-- Reads the pairs of a block mapping and its end. -/
def readPairs (handles : Handles) : (fuel : Nat) → List Token →
    Option (List (Node String × Node String) × List Token)
  | _ + 1, .blockEnd :: rest => some ([], rest)
  | fuel + 1, .key :: rest => do
    let (key, rest) ←
      if noEntry rest then some (Node.empty, rest) else readNode handles fuel true true rest
    let (value, rest) ← readValue handles fuel rest
    let (pairs, rest) ← readPairs handles fuel rest
    some ((key, value) :: pairs, rest)
  | _, _ => none

/-- Reads the value of a pair in a block mapping. -/
def readValue (handles : Handles) : (fuel : Nat) → List Token → Option (Node String × List Token)
  | 0, _ => none
  | fuel + 1, .value :: rest =>
    if noEntry rest then some (Node.empty, rest) else readNode handles fuel true true rest
  | _ + 1, rest => some (Node.empty, rest)

/-- Reads the items between brackets and the closing bracket. An item may be a single pair. -/
def readFlowItems (handles : Handles) : (fuel : Nat) → (first : Bool) → List Token →
    Option (List (Node String) × List Token)
  | 0, _, _ => none
  | _ + 1, _, .flowSequenceEnd :: rest => some ([], rest)
  | fuel + 1, first, tokens => do
    let tokens ← afterComma first tokens
    match tokens with
    | .flowSequenceEnd :: rest => some ([], rest)
    | .key :: rest =>
      let (key, rest) ←
        if noFlowKey .flowSequenceEnd rest then some (Node.empty, rest.drop 1)
        else readNode handles fuel false false rest
      let (value, rest) ← readFlowValue handles fuel .flowSequenceEnd rest
      let (items, rest) ← readFlowItems handles fuel false rest
      some (.mapping ⟨none, none⟩ [(key, value)] :: items, rest)
    | tokens =>
      let (item, rest) ← readNode handles fuel false false tokens
      let (items, rest) ← readFlowItems handles fuel false rest
      some (item :: items, rest)

/-- Reads the pairs between braces and the closing brace. Without an indicator, what stands there
is a key that has no value unless a colon follows. -/
def readFlowPairs (handles : Handles) : (fuel : Nat) → (first : Bool) → List Token →
    Option (List (Node String × Node String) × List Token)
  | 0, _, _ => none
  | _ + 1, _, .flowMappingEnd :: rest => some ([], rest)
  | fuel + 1, first, tokens => do
    let tokens ← afterComma first tokens
    match tokens with
    | .flowMappingEnd :: rest => some ([], rest)
    | .key :: rest =>
      let (key, rest) ←
        if noFlowKey .flowMappingEnd rest then some (Node.empty, rest)
        else readNode handles fuel false false rest
      let (value, rest) ← readFlowValue handles fuel .flowMappingEnd rest
      let (pairs, rest) ← readFlowPairs handles fuel false rest
      some ((key, value) :: pairs, rest)
    | tokens =>
      let (key, rest) ← readNode handles fuel false false tokens
      let (pairs, rest) ← readFlowPairs handles fuel false rest
      some ((key, Node.empty) :: pairs, rest)

/-- Reads the value of a pair between brackets or braces. -/
def readFlowValue (handles : Handles) : (fuel : Nat) → (close : Token) → List Token →
    Option (Node String × List Token)
  | 0, _, _ => none
  | fuel + 1, close, .value :: rest =>
    if noFlowValue close rest then some (Node.empty, rest)
    else readNode handles fuel false false rest
  | _ + 1, _, rest => some (Node.empty, rest)
end

/-! ### Documents -/

/-- The handles that every document has. -/
def defaultHandles : Handles := [("!", .unnamed), ("!!", .ofText "tag:yaml.org,2002:")]

/-- Reads the directives of a document: at most one version, which has to be known, and no handle
twice. -/
def readDirectives (version : Bool) (handles : Handles) :
    List Token → Option (Handles × List Token)
  | .versionDirective major minor :: rest =>
    if version || !(major == 1 && (minor == 1 || minor == 2)) then none
    else readDirectives true handles rest
  | .tagDirective handle expansion :: rest =>
    if (handles.lookup handle).isSome then none
    else readDirectives version (handles ++ [(handle, expansion)]) rest
  | tokens => some (handles ++ defaultHandles, tokens)

/-- Whether a document has nothing written. -/
def noContent : List Token → Bool
  | .versionDirective .. :: _ | .tagDirective .. :: _ | .documentStart :: _ | .documentEnd :: _
  | .streamEnd :: _ => true
  | _ => false

/-- Whether a document has to begin with a line of its own. -/
def hasHeader : List Token → Bool
  | .versionDirective .. :: _ | .tagDirective .. :: _ | .documentStart :: _ => true
  | _ => false

/-- Passes the lines that end documents. -/
def skipEnds : List Token → List Token
  | .documentEnd :: rest => skipEnds rest
  | tokens => tokens

/-- Reads the documents of a stream; only the first may begin without a line of its own. -/
def readDocuments : (fuel : Nat) → (first : Bool) → List Token → Option (List (Node String))
  | 0, _, _ => none
  | fuel + 1, first, tokens => do
    let tokens := if first then tokens else skipEnds tokens
    match tokens with
    | .streamEnd :: _ => some []
    | _ =>
      let (root, rest) ←
        if first ∧ ¬ hasHeader tokens then
          readNode defaultHandles (4 * tokens.length + 8) true false tokens
        else
          match ← readDirectives false [] tokens with
          | (handles, .documentStart :: rest) =>
            if noContent rest then some (Node.empty, rest)
            else readNode handles (4 * rest.length + 8) true false rest
          | _ => none
      let rest := match rest with
        | .documentEnd :: rest => rest
        | rest => rest
      let roots ← readDocuments fuel false rest
      some (root :: roots)

/-- The documents that the tokens of a stream spell. -/
def Node.ofTokens? (tokens : List Token) : Option (List (Node String)) :=
  readDocuments (tokens.length + 1) true tokens

/-! ### Anchors -/

/-- The numbers given to the anchors seen so far. -/
abbrev Anchors : Type := List (String × Nat)

/-- Gives the anchor of a node the number of distinct anchors seen before it. -/
def bindAnchor (anchors : Anchors) (props : Properties String) : Properties Nat × Anchors :=
  match props.anchor with
  | none => (⟨none, props.tag⟩, anchors)
  | some name =>
    let n := anchors.length
    (⟨some n, props.tag⟩, (name, n) :: anchors.filter (·.1 ≠ name))

mutual
/-- Ties each alias to the last anchor of its name that stands before it, if there is one. -/
def Node.number? (anchors : Anchors) : Node String → Option (Node Nat × Anchors)
  | .alias name => (anchors.lookup name).map fun n => (.alias n, anchors)
  | .scalar props text plain =>
    let (props, anchors) := bindAnchor anchors props
    some (.scalar props text plain, anchors)
  | .sequence props items => do
    let (props, anchors) := bindAnchor anchors props
    let (items, anchors) ← Node.numberItems? anchors items
    some (.sequence props items, anchors)
  | .mapping props pairs => do
    let (props, anchors) := bindAnchor anchors props
    let (pairs, anchors) ← Node.numberPairs? anchors pairs
    some (.mapping props pairs, anchors)

def Node.numberItems? (anchors : Anchors) : List (Node String) → Option (List (Node Nat) × Anchors)
  | [] => some ([], anchors)
  | item :: items => do
    let (item, anchors) ← item.number? anchors
    let (items, anchors) ← Node.numberItems? anchors items
    some (item :: items, anchors)

def Node.numberPairs? (anchors : Anchors) :
    List (Node String × Node String) → Option (List (Node Nat × Node Nat) × Anchors)
  | [] => some ([], anchors)
  | (key, value) :: pairs => do
    let (key, anchors) ← key.number? anchors
    let (value, anchors) ← value.number? anchors
    let (pairs, anchors) ← Node.numberPairs? anchors pairs
    some ((key, value) :: pairs, anchors)
end

mutual
/-- The nodes with an anchor, each with its number, in the order in which they begin. -/
def Node.anchored : Node Nat → List (Nat × Node Nat)
  | .alias _ => []
  | .scalar props text plain => (props.anchor.map (·, .scalar props text plain)).toList
  | .sequence props items =>
    (props.anchor.map (·, .sequence props items)).toList ++ Node.anchoredItems items
  | .mapping props pairs =>
    (props.anchor.map (·, .mapping props pairs)).toList ++ Node.anchoredPairs pairs

def Node.anchoredItems : List (Node Nat) → List (Nat × Node Nat)
  | [] => []
  | item :: items => item.anchored ++ Node.anchoredItems items

def Node.anchoredPairs : List (Node Nat × Node Nat) → List (Nat × Node Nat)
  | [] => []
  | (key, value) :: pairs => key.anchored ++ value.anchored ++ Node.anchoredPairs pairs
end

mutual
/-- How many events a reader of the node sees: one for each scalar and alias, and two more than its
content for each collection. -/
def Node.events {α : Type} : Node α → Nat
  | .alias _ | .scalar .. => 1
  | .sequence _ items => 2 + Node.eventsOfItems items
  | .mapping _ pairs => 2 + Node.eventsOfPairs pairs

def Node.eventsOfItems {α : Type} : List (Node α) → Nat
  | [] => 0
  | item :: items => item.events + Node.eventsOfItems items

def Node.eventsOfPairs {α : Type} : List (Node α × Node α) → Nat
  | [] => 0
  | (key, value) :: pairs => key.events + value.events + Node.eventsOfPairs pairs
end

end Rollout.Yaml
