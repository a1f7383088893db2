import ApiContract.Yaml.Token.Lexer

/-!
# YAML trees

A text is one document, whose nodes are scalars, sequences, mappings and aliases of
nodes that have an anchor.  `Tree.ofTokens?` reads it from tokens: a node that is left
out is a plain scalar without text.
-/

namespace ApiContract
namespace Yaml

/-- A node of a document.  An alias refers to another node: by the name of its anchor
as it is read, by a number once the names are resolved. -/
inductive Tree (reference : Type) where
  | alias (target : reference)
  | scalar (anchor : Option String) (scalar : Scalar)
  | sequence (anchor tag : Option String) (items : List (Tree reference))
  | mapping (anchor tag : Option String) (entries : List (Tree reference × Tree reference))

namespace Tree

/-- A node that is left out. -/
def empty : Tree String :=
  .scalar none ⟨"", .plain, none⟩

/-- What the tag handles stand for. -/
abbrev Handles := List (String × String)

/-- The handles that every document has. -/
def defaultHandles : Handles :=
  [("!", "!"), ("!!", Scalar.coreTag "")]

/-- The tag that a handle and a suffix write. -/
def expandTag? (handles : Handles) (handle suffix : String) : Option String :=
  if handle = "" then some suffix else (handles.lookup handle).map (· ++ suffix)

/-- Reads an anchor and a tag in either order. -/
def readProperties? (handles : Handles) (tokens : List Token) :
    Option (Option String × Option String × List Token) :=
  match tokens with
  | .anchor name :: .tag handle suffix :: rest
  | .tag handle suffix :: .anchor name :: rest =>
      (expandTag? handles handle suffix).map fun tag => (some name, some tag, rest)
  | .anchor name :: rest => some (some name, none, rest)
  | .tag handle suffix :: rest =>
      (expandTag? handles handle suffix).map fun tag => (none, some tag, rest)
  | _ => some (none, none, tokens)

/-- Where a node stands: in a block collection, as a key or value of a block mapping,
whose sequences need no indentation, or in a flow collection. -/
inductive Context where
  | block
  | blockEntry
  | flow
  deriving DecidableEq

/-- Whether the next token is one of those after which a node has been left out. -/
def isNext (tokens ends : List Token) : Bool :=
  tokens.head?.any ends.contains

mutual
/-- Reads a node. -/
def readNode? (handles : Handles) (context : Context) (fuel : Nat) (tokens : List Token) :
    Option (Tree String × List Token) :=
  match fuel, tokens with
  | 0, _ => none
  | _ + 1, .alias name :: rest => some (.alias name, rest)
  | fuel + 1, tokens => do
      let (anchor, tag, tokens) ← readProperties? handles tokens
      match tokens with
      | .scalar text style :: rest => return (.scalar anchor ⟨text, style, tag⟩, rest)
      | .flowSequenceStart :: rest =>
          let (items, rest) ← readFlowItems? handles true fuel rest
          return (.sequence anchor tag items, rest)
      | .flowMappingStart :: rest =>
          let (entries, rest) ← readFlowEntries? handles true fuel rest
          return (.mapping anchor tag entries, rest)
      | token :: rest =>
          if token = .blockEntry && context = .blockEntry then
            let (items, rest) ← readIndentless? handles fuel tokens
            return (.sequence anchor tag items, rest)
          else if token = .blockSequenceStart && context ≠ .flow then
            let (items, rest) ← readBlockItems? handles fuel rest
            return (.sequence anchor tag items, rest)
          else if token = .blockMappingStart && context ≠ .flow then
            let (entries, rest) ← readBlockEntries? handles fuel rest
            return (.mapping anchor tag entries, rest)
          else if anchor.isSome || tag.isSome then
            return (.scalar anchor ⟨"", .plain, tag⟩, tokens)
          else none
      | [] =>
          if anchor.isSome || tag.isSome then
            return (.scalar anchor ⟨"", .plain, tag⟩, [])
          else none

/-- Reads the items of a block sequence. -/
def readBlockItems? (handles : Handles) (fuel : Nat) (tokens : List Token) :
    Option (List (Tree String) × List Token) :=
  match fuel, tokens with
  | fuel + 1, .blockEntry :: rest => do
      let (item, rest) ←
        if isNext rest [.blockEntry, .blockEnd] then pure (empty, rest)
        else readNode? handles .block fuel rest
      let (items, rest) ← readBlockItems? handles fuel rest
      return (item :: items, rest)
  | _, .blockEnd :: rest => some ([], rest)
  | _, _ => none

/-- Reads the items of a sequence that is not indented. -/
def readIndentless? (handles : Handles) (fuel : Nat) (tokens : List Token) :
    Option (List (Tree String) × List Token) :=
  match fuel, tokens with
  | 0, _ => none
  | fuel + 1, .blockEntry :: rest => do
      let (item, rest) ←
        if isNext rest [.blockEntry, .key, .value, .blockEnd] then pure (empty, rest)
        else readNode? handles .block fuel rest
      let (items, rest) ← readIndentless? handles fuel rest
      return (item :: items, rest)
  | _, tokens => some ([], tokens)

/-- Reads the entries of a block mapping. -/
def readBlockEntries? (handles : Handles) (fuel : Nat) (tokens : List Token) :
    Option (List (Tree String × Tree String) × List Token) :=
  match fuel, tokens with
  | fuel + 1, .key :: rest => do
      let (key, rest) ←
        if isNext rest [.key, .value, .blockEnd] then pure (empty, rest)
        else readNode? handles .blockEntry fuel rest
      let (value, rest) ← match rest with
        | .value :: rest =>
            if isNext rest [.key, .value, .blockEnd] then pure (empty, rest)
            else readNode? handles .blockEntry fuel rest
        | _ => pure (empty, rest)
      let (entries, rest) ← readBlockEntries? handles fuel rest
      return ((key, value) :: entries, rest)
  | _, .blockEnd :: rest => some ([], rest)
  | _, _ => none

/-- Reads the items of a flow sequence.  An item that begins with a key is a mapping of
one entry. -/
def readFlowItems? (handles : Handles) (first : Bool) (fuel : Nat) (tokens : List Token) :
    Option (List (Tree String) × List Token) :=
  match fuel, tokens with
  | 0, _ => none
  | _, .flowSequenceEnd :: rest => some ([], rest)
  | fuel + 1, tokens => do
      let tokens ← match first, tokens with
        | true, _ => some tokens
        | false, .flowEntry :: rest => some rest
        | false, _ => none
      match tokens with
      | .flowSequenceEnd :: rest => return ([], rest)
      | .key :: rest =>
          let (key, rest) ←
            if isNext rest [.value, .flowEntry, .flowSequenceEnd] then pure (empty, rest.drop 1)
            else readNode? handles .flow fuel rest
          let (value, rest) ← match rest with
            | .value :: rest =>
                if isNext rest [.flowEntry, .flowSequenceEnd] then pure (empty, rest)
                else readNode? handles .flow fuel rest
            | _ => pure (empty, rest)
          let (items, rest) ← readFlowItems? handles false fuel rest
          return (.mapping none none [(key, value)] :: items, rest)
      | _ =>
          let (item, rest) ← readNode? handles .flow fuel tokens
          let (items, rest) ← readFlowItems? handles false fuel rest
          return (item :: items, rest)

/-- Reads the entries of a flow mapping.  An entry without a key token has a key
alone. -/
def readFlowEntries? (handles : Handles) (first : Bool) (fuel : Nat) (tokens : List Token) :
    Option (List (Tree String × Tree String) × List Token) :=
  match fuel, tokens with
  | 0, _ => none
  | _, .flowMappingEnd :: rest => some ([], rest)
  | fuel + 1, tokens => do
      let tokens ← match first, tokens with
        | true, _ => some tokens
        | false, .flowEntry :: rest => some rest
        | false, _ => none
      match tokens with
      | .flowMappingEnd :: rest => return ([], rest)
      | .key :: rest =>
          let (key, rest) ←
            if isNext rest [.value, .flowEntry, .flowMappingEnd] then pure (empty, rest)
            else readNode? handles .flow fuel rest
          let (value, rest) ← match rest with
            | .value :: rest =>
                if isNext rest [.flowEntry, .flowMappingEnd] then pure (empty, rest)
                else readNode? handles .flow fuel rest
            | _ => pure (empty, rest)
          let (entries, rest) ← readFlowEntries? handles false fuel rest
          return ((key, value) :: entries, rest)
      | _ =>
          let (key, rest) ← readNode? handles .flow fuel tokens
          let (entries, rest) ← readFlowEntries? handles false fuel rest
          return ((key, empty) :: entries, rest)
end

/-- Reads the directives before a document: at most one version, which is 1.1 or 1.2,
and handles, each once. -/
def readDirectives? (version : Bool) (handles : Handles) :
    List Token → Option (Handles × List Token)
  | .version major minor :: rest =>
      if version || major ≠ 1 || (minor ≠ 1 && minor ≠ 2) then none
      else readDirectives? true handles rest
  | .tagHandle handle expansion :: rest =>
      if (handles.lookup handle).isSome then none
      else readDirectives? version (handles ++ [(handle, expansion)]) rest
  | tokens => some (handles, tokens)

/-- Reads the only document of a text.  Directives must be followed by a document
mark. -/
def ofTokens? (tokens : List Token) : Option (Tree String) := do
  let fuel := 2 * tokens.length + 2
  let (handles, rest) ← readDirectives? false [] tokens
  let hasDirectives := rest.length < tokens.length
  let handles := handles ++ defaultHandles
  let (tree, rest) ← match rest with
    | .documentStart :: rest =>
        if rest.isEmpty || isNext rest [.documentStart, .documentEnd] then some (empty, rest)
        else readNode? handles .block fuel rest
    | _ => if hasDirectives then none else readNode? handles .block fuel rest
  if rest.all (· = .documentEnd) then some tree else none

/-- Reads the only document of a text. -/
def ofText? (text : List Char) : Option (Tree String) := do
  ofTokens? (← Token.scan? text)

end Tree
end Yaml
end ApiContract
