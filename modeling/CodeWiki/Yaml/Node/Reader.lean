import CodeWiki.Yaml.Node
import CodeWiki.Yaml.Token.Reader

/-!
From tokens to nodes. A text holds at most one document.
-/
namespace CodeWiki.Yaml

/-- What is left of the tokens, and what is known of the names of anchors. -/
structure Parse where
  tokens : List Token
  /-- The numbers of the names. -/
  numbers : List (Text × Nat) := []
  /-- The meanings of the handles of tags. -/
  handles : List (Text × Text)

namespace Parse

def advance (s : Parse) (tokens : List Token) : Parse := { s with tokens }

/-- Gives a name its number: how many names are known already. A name that is given again refers to
the new node from then on. -/
def name (s : Parse) (name : Text) : Nat × Parse :=
  let number := s.numbers.length
  (number, { s with numbers := (name, number) :: s.numbers.filter (·.1 ≠ name) })

/-- The tag with its handle replaced by its meaning. -/
def tag? (s : Parse) (handle suffix : Text) : Option Text :=
  if handle.isEmpty then some suffix else (s.handles.lookup handle).map (· ++ suffix)

/-- What may stand in front of the content of a node. -/
structure Properties where
  anchor : Option Text := none
  tag : Option Text := none

def Properties.isGiven (p : Properties) : Bool := p.anchor.isSome || p.tag.isSome

/-- The anchor and the tag at hand, in either order. -/
def properties? (s : Parse) : Option (Properties × Parse) :=
  match s.tokens with
  | .anchor name :: .tag handle suffix :: rest => do
    some ({ anchor := some name, tag := some (← s.tag? handle suffix) }, s.advance rest)
  | .tag handle suffix :: .anchor name :: rest => do
    some ({ anchor := some name, tag := some (← s.tag? handle suffix) }, s.advance rest)
  | .anchor name :: rest => some ({ anchor := some name }, s.advance rest)
  | .tag handle suffix :: rest => do
    some ({ tag := some (← s.tag? handle suffix) }, s.advance rest)
  | _ => some ({}, s)

/-- The number of an anchor, if there is one. -/
def number (s : Parse) : Option Text → Option Nat × Parse
  | some name => let (number, s) := s.name name; (some number, s)
  | none => (none, s)

def anchor (number : Option Nat) (node : Node) : Node :=
  match number with
  | some number => .anchored number node
  | none => node

/-- Whether an entry of a block sequence has no content. -/
def lacksItem : List Token → Bool
  | .blockEntry :: _ | .blockEnd :: _ => true
  | _ => false

/-- Whether a key or value of a block mapping has no content. -/
def lacksBlockNode : List Token → Bool
  | .key :: _ | .value :: _ | .blockEnd :: _ => true
  | _ => false

/-- Whether an entry of a sequence without indentation has no content. -/
def lacksIndentlessItem (tokens : List Token) : Bool := lacksItem tokens || lacksBlockNode tokens

/-- Whether a value between brackets has no content. -/
def lacksFlowValue (closing : Token) : List Token → Bool
  | [] => false
  | token :: _ => token = .flowEntry || token = closing

/-- Whether a key between brackets has no content. -/
def lacksFlowKey (closing : Token) (tokens : List Token) : Bool :=
  tokens.head? = some .value || lacksFlowValue closing tokens

/-- The tokens behind the comma that has to stand in front of all entries but the first. -/
def afterComma? (first : Bool) : List Token → Option (List Token)
  | .flowEntry :: rest => if first then some (.flowEntry :: rest) else some rest
  | tokens => if first then some tokens else none

mutual

/-- The node at hand, and what is left. Block collections are only accepted if `block` says so, and
a sequence without indentation only if `indentless` does. -/
def node? : Nat → (block indentless : Bool) → Parse → Option (Node × Parse)
  | 0, _, _, _ => none
  | fuel + 1, block, indentless, s =>
    match s.tokens with
    | .aliasName name :: rest =>
      (s.numbers.lookup name).map fun number => (.aliasOf number, s.advance rest)
    | _ => do
      let (properties, s) ← s.properties?
      let (number, s) := s.number properties.anchor
      let content ←
        match s.tokens with
        | .scalar content style :: rest =>
          some (.scalar content style properties.tag, s.advance rest)
        | .flowSequence .opening :: rest =>
          (flowItems? fuel true (s.advance rest)).map fun (items, s) => (.sequence items, s)
        | .flowMapping .opening :: rest =>
          (flowEntries? fuel true (s.advance rest)).map fun (entries, s) => (.mapping entries, s)
        | token :: rest =>
          if indentless && token = .blockEntry then
            (indentlessItems? fuel s).map fun (items, s) => (.sequence items, s)
          else if block && token = .blockSequence then
            (blockItems? fuel (s.advance rest)).map fun (items, s) => (.sequence items, s)
          else if block && token = .blockMapping then
            (blockEntries? fuel (s.advance rest)).map fun (entries, s) => (.mapping entries, s)
          else if properties.isGiven then some (.scalar [] .plain properties.tag, s)
          else none
        | [] => if properties.isGiven then some (.scalar [] .plain properties.tag, s) else none
      some (anchor number content.1, content.2)

/-- The entries of a block sequence up to its end. -/
def blockItems? : Nat → Parse → Option (List Node × Parse)
  | 0, _ => none
  | fuel + 1, s =>
    match s.tokens with
    | .blockEntry :: rest => do
      let (item, s) ←
        if lacksItem rest then some (.absent, s.advance rest)
        else node? fuel true false (s.advance rest)
      let (items, s) ← blockItems? fuel s
      some (item :: items, s)
    | .blockEnd :: rest => some ([], s.advance rest)
    | _ => none

/-- The entries of a sequence that is not indented, which ends where no further entry follows. -/
def indentlessItems? : Nat → Parse → Option (List Node × Parse)
  | 0, _ => none
  | fuel + 1, s =>
    match s.tokens with
    | .blockEntry :: rest => do
      let (item, s) ←
        if lacksIndentlessItem rest then some (.absent, s.advance rest)
        else node? fuel true false (s.advance rest)
      let (items, s) ← indentlessItems? fuel s
      some (item :: items, s)
    | _ => some ([], s)

/-- The entries of a block mapping up to its end. -/
def blockEntries? : Nat → Parse → Option (List (Node × Node) × Parse)
  | 0, _ => none
  | fuel + 1, s =>
    match s.tokens with
    | .key :: rest => do
      let (key, s) ←
        if lacksBlockNode rest then some (.absent, s.advance rest)
        else node? fuel true true (s.advance rest)
      let (value, s) ←
        match s.tokens with
        | .value :: rest =>
          if lacksBlockNode rest then some (.absent, s.advance rest)
          else node? fuel true true (s.advance rest)
        | _ => some (.absent, s)
      let (entries, s) ← blockEntries? fuel s
      some ((key, value) :: entries, s)
    | .blockEnd :: rest => some ([], s.advance rest)
    | _ => none

/-- The items between brackets up to the closing one. A pair among them is a mapping of its own. -/
def flowItems? : Nat → (first : Bool) → Parse → Option (List Node × Parse)
  | 0, _, _ => none
  | fuel + 1, first, s =>
    match s.tokens with
    | .flowSequence .closing :: rest => some ([], s.advance rest)
    | tokens => do
      let tokens ← afterComma? first tokens
      match tokens with
      | .flowSequence .closing :: rest => some ([], s.advance rest)
      | .key :: rest =>
        let (key, s) ←
          if lacksFlowKey (.flowSequence .closing) rest then some (.absent, s.advance (rest.drop 1))
          else node? fuel false false (s.advance rest)
        let (value, s) ← flowValue? fuel (.flowSequence .closing) s
        let (items, s) ← flowItems? fuel false s
        some (.mapping [(key, value)] :: items, s)
      | tokens =>
        let (item, s) ← node? fuel false false (s.advance tokens)
        let (items, s) ← flowItems? fuel false s
        some (item :: items, s)

/-- The entries between braces up to the closing one. -/
def flowEntries? : Nat → (first : Bool) → Parse → Option (List (Node × Node) × Parse)
  | 0, _, _ => none
  | fuel + 1, first, s =>
    match s.tokens with
    | .flowMapping .closing :: rest => some ([], s.advance rest)
    | tokens => do
      let tokens ← afterComma? first tokens
      match tokens with
      | .flowMapping .closing :: rest => some ([], s.advance rest)
      | .key :: rest =>
        let (key, s) ←
          if lacksFlowKey (.flowMapping .closing) rest then some (.absent, s.advance rest)
          else node? fuel false false (s.advance rest)
        let (value, s) ← flowValue? fuel (.flowMapping .closing) s
        let (entries, s) ← flowEntries? fuel false s
        some ((key, value) :: entries, s)
      | tokens =>
        let (key, s) ← node? fuel false false (s.advance tokens)
        let (entries, s) ← flowEntries? fuel false s
        some ((key, .absent) :: entries, s)

/-- The value behind a key between brackets; there may be none. -/
def flowValue? : Nat → (closing : Token) → Parse → Option (Node × Parse)
  | 0, _, _ => none
  | fuel + 1, closing, s =>
    match s.tokens with
    | .value :: rest =>
      if lacksFlowValue closing rest then some (.absent, s.advance rest)
      else node? fuel false false (s.advance rest)
    | _ => some (.absent, s)

end

/-- The meanings that handles have from the start. -/
def defaultHandles : List (Text × Text) := [("!", "!"), ("!!", "tag:yaml.org,2002:")]

/-- The directives at hand up to the start of the document, and what follows. There may be one
version, which has to be 1.1 or 1.2, and one meaning for each handle. -/
def directives? (versioned : Bool) (handles : List (Text × Text)) :
    List Token → Option (List (Text × Text) × List Token)
  | .version major minor :: rest =>
    if versioned || major != 1 || (minor != 1 && minor != 2) then none
    else directives? true handles rest
  | .tagDirective handle meaning :: rest =>
    if (handles.lookup handle).isSome then none
    else directives? versioned ((handle, meaning) :: handles) rest
  | .documentStart :: rest => some (handles ++ defaultHandles, rest)
  | _ => none

def lacksContent : List Token → Bool
  | [] | .version .. :: _ | .tagDirective .. :: _ | .documentStart :: _ | .documentEnd :: _ => true
  | _ => false

/-- Whether a document begins with directives or a marker. -/
def isExplicit : List Token → Bool
  | .version .. :: _ | .tagDirective .. :: _ | .documentStart :: _ => true
  | _ => false

/-- The node of the document at hand, and the tokens left. -/
def document? (tokens : List Token) : Option (Node × List Token) := do
  let fuel := 3 * tokens.length + 1
  if isExplicit tokens then
    let (handles, rest) ← directives? false [] tokens
    if lacksContent rest then some (.absent, rest)
    else
      let (node, s) ← node? fuel true false { tokens := rest, handles }
      some (node, s.tokens)
  else
    let (node, s) ← node? fuel true false { tokens, handles := defaultHandles }
    some (node, s.tokens)

end Parse

namespace Node

/-- The node of the only document of a text; a text without documents is that of an absent node. -/
def ofText? (t : Text) : Option Node := do
  match ← Token.ofText? t with
  | [] => some absent
  | tokens =>
    let (node, rest) ← Parse.document? tokens
    if rest.all (· = .documentEnd) then some node else none

end Node
end CodeWiki.Yaml
