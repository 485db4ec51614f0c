import TemplateGrep.Yaml.Lexer
import TemplateGrep.Yaml.Node

/-!
From tokens to the one node of a document. Each reader returns what it has read and the tokens behind.
-/

namespace TemplateGrep.Yaml

abbrev Handles := List (String × Bytes)

def standardHandles : Handles :=
  [("!", Bytes.ofString "!"), ("!!", Bytes.ofString "tag:yaml.org,2002:")]

def readTagToken (handles : Handles) (handle : String) (suffix : Bytes) : Option Bytes :=
  if handle = "" then some suffix else (handles.lookup handle).map (· ++ suffix)

def readProperties (handles : Handles) : List Token → Option (Properties String × List Token)
  | .anchor name :: .tag handle suffix :: rest | .tag handle suffix :: .anchor name :: rest =>
      (readTagToken handles handle suffix).map fun t => (⟨some name, some t⟩, rest)
  | .anchor name :: rest => some (⟨some name, none⟩, rest)
  | .tag handle suffix :: rest =>
      (readTagToken handles handle suffix).map fun t => (⟨none, some t⟩, rest)
  | rest => some ({}, rest)

inductive Place
  | flow
  | block
  | entry
  deriving DecidableEq

def leavesOutItem : List Token → Bool
  | .blockEntry :: _ | .blockEnd :: _ => true
  | _ => false

def leavesOutEntry : List Token → Bool
  | .key :: _ | .value :: _ | .blockEnd :: _ => true
  | _ => false

def leavesOutFlowKey : List Token → Bool
  | .value :: _ | .flowEntry :: _ | .flowMappingEnd :: _ => true
  | _ => false

def leavesOutFlowValue : List Token → Bool
  | .flowEntry :: _ | .flowMappingEnd :: _ => true
  | _ => false

def leavesOutPairKey : List Token → Bool
  | .value :: _ | .flowEntry :: _ | .flowSequenceEnd :: _ => true
  | _ => false

def leavesOutPairValue : List Token → Bool
  | .flowEntry :: _ | .flowSequenceEnd :: _ => true
  | _ => false

abbrev Reader (α : Type) := List Token → Option (α × List Token)

def orBlank (leavesOut : List Token → Bool) (read : Reader (Node String)) : Reader (Node String) :=
  fun ts => if leavesOut ts then some (.blank {}, ts) else read ts

def valueOrBlank (leavesOut : List Token → Bool) (read : Reader (Node String)) :
    Reader (Node String)
  | .value :: rest => orBlank leavesOut read rest
  | rest => some (.blank {}, rest)

def skipComma (first : Bool) : List Token → Option (List Token)
  | .flowEntry :: rest => if first then none else some rest
  | rest => if first then some rest else none

mutual

def readNode (handles : Handles) : Nat → Place → Reader (Node String)
  | 0, _, _ => none
  | _ + 1, _, .alias name :: rest => some (.alias name, rest)
  | fuel + 1, place, ts => do
      let (p, rest) ← readProperties handles ts
      match rest with
      | .scalar text style :: rest => return (.scalar p text style, rest)
      | .flowSequenceStart :: rest =>
          let (items, rest) ← readFlowItems handles fuel true rest
          return (.sequence p items, rest)
      | .flowMappingStart :: rest =>
          let (entries, rest) ← readFlowEntries handles fuel true rest
          return (.mapping p entries, rest)
      | .blockEntry :: _ =>
          if place = .entry then
            let (items, rest) ← readFlushItems handles fuel rest
            return (.sequence p items, rest)
          else blankNode p rest
      | .blockSequenceStart :: rest' =>
          if place = .flow then blankNode p rest
          else
            let (items, rest) ← readItems handles fuel rest'
            return (.sequence p items, rest)
      | .blockMappingStart :: rest' =>
          if place = .flow then blankNode p rest
          else
            let (entries, rest) ← readEntries handles fuel rest'
            return (.mapping p entries, rest)
      | rest => blankNode p rest
where
  blankNode (p : Properties String) : Reader (Node String) := fun ts =>
    if p.anchor.isSome || p.tag.isSome then some (.blank p, ts) else none

def readItems (handles : Handles) : Nat → Reader (List (Node String))
  | fuel + 1, .blockEntry :: rest => do
      let (item, rest) ← orBlank leavesOutItem (readNode handles fuel .block) rest
      let (items, rest) ← readItems handles fuel rest
      return (item :: items, rest)
  | _ + 1, .blockEnd :: rest => some ([], rest)
  | _, _ => none

def readFlushItems (handles : Handles) : Nat → Reader (List (Node String))
  | fuel + 1, .blockEntry :: rest => do
      let leavesOut ts := leavesOutItem ts || leavesOutEntry ts
      let (item, rest) ← orBlank leavesOut (readNode handles fuel .block) rest
      let (items, rest) ← readFlushItems handles fuel rest
      return (item :: items, rest)
  | _ + 1, rest => some ([], rest)
  | 0, _ => none

def readEntries (handles : Handles) : Nat → Reader (List (Node String × Node String))
  | fuel + 1, .key :: rest => do
      let (key, rest) ← orBlank leavesOutEntry (readNode handles fuel .entry) rest
      let (value, rest) ← valueOrBlank leavesOutEntry (readNode handles fuel .entry) rest
      let (entries, rest) ← readEntries handles fuel rest
      return ((key, value) :: entries, rest)
  | _ + 1, .blockEnd :: rest => some ([], rest)
  | _, _ => none

def readFlowItems (handles : Handles) : Nat → Bool → Reader (List (Node String))
  | 0, _, _ => none
  | _ + 1, _, .flowSequenceEnd :: rest => some ([], rest)
  | fuel + 1, first, ts => do
      match ← skipComma first ts with
      | .flowSequenceEnd :: rest => return ([], rest)
      | .key :: rest =>
          let node := readNode handles fuel .flow
          let (key, rest) ←
            if leavesOutPairKey rest then some (.blank {}, rest.tail) else node rest
          let (value, rest) ← valueOrBlank leavesOutPairValue node rest
          let (items, rest) ← readFlowItems handles fuel false rest
          return (.mapping {} [(key, value)] :: items, rest)
      | rest =>
          let (item, rest) ← readNode handles fuel .flow rest
          let (items, rest) ← readFlowItems handles fuel false rest
          return (item :: items, rest)

def readFlowEntries (handles : Handles) : Nat → Bool → Reader (List (Node String × Node String))
  | 0, _, _ => none
  | _ + 1, _, .flowMappingEnd :: rest => some ([], rest)
  | fuel + 1, first, ts => do
      let node := readNode handles fuel .flow
      match ← skipComma first ts with
      | .flowMappingEnd :: rest => return ([], rest)
      | .key :: rest =>
          let (key, rest) ← orBlank leavesOutFlowKey node rest
          let (value, rest) ← valueOrBlank leavesOutFlowValue node rest
          let (entries, rest) ← readFlowEntries handles fuel false rest
          return ((key, value) :: entries, rest)
      | rest =>
          let (key, rest) ← node rest
          let (entries, rest) ← readFlowEntries handles fuel false rest
          return ((key, .blank {}) :: entries, rest)

end

structure Directives where
  versionGiven : Bool := false
  handles : Handles := []

def readDirectives (d : Directives) : List Token → Option (Directives × List Token)
  | .version major minor :: rest =>
      if d.versionGiven || major != 1 || (minor != 1 && minor != 2) then none
      else readDirectives { d with versionGiven := true } rest
  | .tagHandle handle stands :: rest =>
      if (d.handles.lookup handle).isSome then none
      else readDirectives { d with handles := (handle, stands) :: d.handles } rest
  | rest => some (d, rest)

def leavesOutRoot : List Token → Bool
  | [] => true
  | t :: _ => match t with
      | .version _ _ | .tagHandle _ _ | .documentStart | .documentEnd => true
      | _ => false

/-- Enough for a reader to go through all tokens: no two calls in a row pass over none. -/
def enoughFuel (ts : List Token) : Nat := 2 * ts.length + 2

def readRoot (d : Directives) (ts : List Token) : Option (Node String × List Token) :=
  readNode (d.handles ++ standardHandles) (enoughFuel ts) .block ts

def readDocument (ts : List Token) : Option (Node String × List Token) := do
  let (d, rest) ← readDirectives {} ts
  match rest with
  | .documentStart :: rest => orBlank leavesOutRoot (readRoot d) rest
  | rest => if rest.length = ts.length then readRoot d rest else none

def isDocumentEndToken (t : Token) : Bool := t == .documentEnd

def document? (stream : String) : Option (Node Nat) := do
  let ts ← tokens? stream.toList
  if ts.isEmpty then return .blank {}
  let (root, rest) ← readDocument ts
  if rest.all isDocumentEndToken then root.number? else none

end TemplateGrep.Yaml
