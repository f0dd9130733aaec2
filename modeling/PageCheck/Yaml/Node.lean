import PageCheck.Yaml.Scan

/-!
The nodes of a document, read off its tokens. Missing values of maps and lists are empty plain
scalars. The first number of the mutual readers bounds their calls and is computed from the number
of tokens.
-/
namespace PageCheck.Yaml

structure Properties where
  anchor : Option String
  tag : Option String
  deriving DecidableEq, Repr, Inhabited

inductive Node where
  | scalar (properties : Properties) (scalar : ScalarToken)
  | sequence (properties : Properties) (items : List Node)
  | mapping (properties : Properties) (pairs : List (Node × Node))
  | alias (name : String)
  deriving Repr, Inhabited

namespace Properties

def none : Properties := { anchor := .none, tag := .none }

end Properties

namespace Node

def empty (properties : Properties) : Node := .scalar properties { text := "", plain := true }

abbrev Handles := List (String × String)

def defaultHandles : Handles := [("!", "!"), ("!!", "tag:yaml.org,2002:")]

def resolveTag (handles : Handles) (handle ending : String) : Option String :=
  if handle = "" then some ending else (handles.lookup handle).map (· ++ ending)

def readProperties (handles : Handles) : List Token → Option (Properties × List Token)
  | .anchor name :: .tag handle ending :: rest =>
    (resolveTag handles handle ending).map fun tag =>
      ({ anchor := some name, tag := some tag }, rest)
  | .tag handle ending :: .anchor name :: rest =>
    (resolveTag handles handle ending).map fun tag =>
      ({ anchor := some name, tag := some tag }, rest)
  | .anchor name :: rest => some ({ anchor := some name, tag := none }, rest)
  | .tag handle ending :: rest =>
    (resolveTag handles handle ending).map fun tag => ({ anchor := none, tag := some tag }, rest)
  | rest => some (.none, rest)

def comesNext (expected : List Token) (tokens : List Token) : Bool :=
  tokens.head?.any fun token => token ∈ expected

mutual

def read (handles : Handles) (block indentless : Bool) :
    (calls : Nat) → List Token → Option (Node × List Token)
  | 0, _ => none
  | _ + 1, .alias name :: rest => some (.alias name, rest)
  | calls + 1, tokens => do
    let (properties, rest) ← readProperties handles tokens
    let first := rest.head?
    if indentless && first = some .blockEntry then
      let (items, rest) ← readIndentless handles calls rest
      return (.sequence properties items, rest)
    match rest with
    | .scalar written :: rest => return (.scalar properties written, rest)
    | .flowSequenceStart :: rest =>
      let (items, rest) ← readFlowSequence handles true calls rest
      return (.sequence properties items, rest)
    | .flowMappingStart :: rest =>
      let (pairs, rest) ← readFlowMapping handles true calls rest
      return (.mapping properties pairs, rest)
    | .blockSequenceStart :: rest' =>
      if block then
        let (items, rest) ← readBlockSequence handles calls rest'
        return (.sequence properties items, rest)
      else if properties = .none then failure
      else return (empty properties, rest)
    | .blockMappingStart :: rest' =>
      if block then
        let (pairs, rest) ← readBlockMapping handles calls rest'
        return (.mapping properties pairs, rest)
      else if properties = .none then failure
      else return (empty properties, rest)
    | _ => if properties = .none then failure else return (empty properties, rest)

def readBlockSequence (handles : Handles) :
    (calls : Nat) → List Token → Option (List Node × List Token)
  | 0, _ => none
  | calls + 1, .blockEntry :: rest => do
    let (item, rest) ←
      if comesNext [.blockEntry, .blockEnd] rest then some (empty .none, rest)
      else read handles true false calls rest
    let (items, rest) ← readBlockSequence handles calls rest
    return (item :: items, rest)
  | _ + 1, .blockEnd :: rest => some ([], rest)
  | _, _ => none

def readIndentless (handles : Handles) :
    (calls : Nat) → List Token → Option (List Node × List Token)
  | 0, _ => none
  | calls + 1, .blockEntry :: rest => do
    let (item, rest) ←
      if comesNext [.blockEntry, .key, .value, .blockEnd] rest then some (empty .none, rest)
      else read handles true false calls rest
    let (items, rest) ← readIndentless handles calls rest
    return (item :: items, rest)
  | _ + 1, rest => some ([], rest)

def readBlockMapping (handles : Handles) :
    (calls : Nat) → List Token → Option (List (Node × Node) × List Token)
  | 0, _ => none
  | calls + 1, .key :: rest => do
    let (key, rest) ←
      if comesNext [.key, .value, .blockEnd] rest then some (empty .none, rest)
      else read handles true true calls rest
    let (value, rest) ← match rest with
      | .value :: rest =>
        if comesNext [.key, .value, .blockEnd] rest then some (empty .none, rest)
        else read handles true true calls rest
      | rest => some (empty .none, rest)
    let (pairs, rest) ← readBlockMapping handles calls rest
    return ((key, value) :: pairs, rest)
  | _ + 1, .blockEnd :: rest => some ([], rest)
  | _, _ => none

def readFlowSequence (handles : Handles) (first : Bool) :
    (calls : Nat) → List Token → Option (List Node × List Token)
  | 0, _ => none
  | _ + 1, .flowSequenceEnd :: rest => some ([], rest)
  | calls + 1, tokens => do
    let rest ← if first then some tokens
      else match tokens with
        | .flowEntry :: rest => some rest
        | _ => none
    match rest with
    | .flowSequenceEnd :: rest => return ([], rest)
    | .key :: rest =>
      let (pair, rest) ← readPair handles calls rest
      let (items, rest) ← readFlowSequence handles false calls rest
      return (.mapping .none [pair] :: items, rest)
    | rest =>
      let (item, rest) ← read handles false false calls rest
      let (items, rest) ← readFlowSequence handles false calls rest
      return (item :: items, rest)

def readPair (handles : Handles) :
    (calls : Nat) → List Token → Option ((Node × Node) × List Token)
  | 0, _ => none
  | calls + 1, tokens => do
    let (key, rest) ←
      if comesNext [.value, .flowEntry, .flowSequenceEnd] tokens then
        some (empty .none, tokens.tail)
      else read handles false false calls tokens
    let (value, rest) ← match rest with
      | .value :: rest =>
        if comesNext [.flowEntry, .flowSequenceEnd] rest then some (empty .none, rest)
        else read handles false false calls rest
      | rest => some (empty .none, rest)
    return ((key, value), rest)

def readFlowMapping (handles : Handles) (first : Bool) :
    (calls : Nat) → List Token → Option (List (Node × Node) × List Token)
  | 0, _ => none
  | _ + 1, .flowMappingEnd :: rest => some ([], rest)
  | calls + 1, tokens => do
    let rest ← if first then some tokens
      else match tokens with
        | .flowEntry :: rest => some rest
        | _ => none
    match rest with
    | .flowMappingEnd :: rest => return ([], rest)
    | .key :: rest =>
      let (key, rest) ←
        if comesNext [.value, .flowEntry, .flowMappingEnd] rest then some (empty .none, rest)
        else read handles false false calls rest
      let (value, rest) ← match rest with
        | .value :: rest =>
          if comesNext [.flowEntry, .flowMappingEnd] rest then some (empty .none, rest)
          else read handles false false calls rest
        | rest => some (empty .none, rest)
      let (pairs, rest) ← readFlowMapping handles false calls rest
      return ((key, value) :: pairs, rest)
    | rest =>
      let (key, rest) ← read handles false false calls rest
      let (pairs, rest) ← readFlowMapping handles false calls rest
      return ((key, empty .none) :: pairs, rest)

end

def readDirectives : (versioned : Bool) → Handles → List Token → Option (Handles × List Token)
  | versioned, handles, .versionDirective major minor :: rest =>
    if versioned || major ≠ 1 || (minor ≠ 1 && minor ≠ 2) then none
    else readDirectives true handles rest
  | versioned, handles, .tagDirective handle start :: rest =>
    if (handles.lookup handle).isSome then none
    else readDirectives versioned ((handle, start) :: handles) rest
  | _, handles, rest => some (handles ++ defaultHandles, rest)

def readContent (handles : Handles) (tokens : List Token) : Option (Node × List Token) :=
  match tokens with
  | [] | .documentStart :: _ | .documentEnd :: _ | .versionDirective .. :: _
  | .tagDirective .. :: _ => some (empty .none, tokens)
  | _ => read handles true false (4 * tokens.length + 4) tokens

def document (tokens : List Token) : Option (Option Node) :=
  match tokens with
  | [] => some none
  | .documentStart :: _ | .versionDirective .. :: _ | .tagDirective .. :: _ => do
    let (handles, rest) ← readDirectives false [] tokens
    match rest with
    | .documentStart :: rest =>
      let (node, rest) ← readContent handles rest
      complete node rest
    | _ => none
  | _ => do
    let (node, rest) ← read defaultHandles true false (4 * tokens.length + 4) tokens
    complete node rest
where
  complete (node : Node) (rest : List Token) : Option (Option Node) :=
    if rest.all fun token => token = .documentEnd then some (some node) else none

def ofText (text : String) : Option (Option Node) := (Token.ofText text).bind document

end Node

end PageCheck.Yaml
