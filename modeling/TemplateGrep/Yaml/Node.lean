import TemplateGrep.Yaml.Token

/-!
Nodes of a YAML document. Anchors and aliases are names at first; `number?` checks that every alias
has an anchor in front of it and gives anchors numbers, by which `target?` finds what an alias stands
for.
-/

namespace TemplateGrep.Yaml

structure Properties (α : Type) where
  anchor : Option α := none
  tag : Option Bytes := none

inductive Node (α : Type) where
  | scalar (properties : Properties α) (text : String) (style : ScalarStyle)
  | sequence (properties : Properties α) (items : List (Node α))
  | mapping (properties : Properties α) (entries : List (Node α × Node α))
  | alias (anchor : α)

namespace Node

def blank {α : Type} (p : Properties α) : Node α := .scalar p "" .plain

abbrev Anchors := List (String × Nat)

def Anchors.define (known : Anchors) (name : String) : Anchors :=
  (name, known.length) :: known.filter (·.1 != name)

def Anchors.enter (known : Anchors) (p : Properties String) : Anchors × Properties Nat :=
  match p.anchor with
  | none => (known, ⟨none, p.tag⟩)
  | some name => (known.define name, ⟨some known.length, p.tag⟩)

mutual

def numberNode (known : Anchors) : Node String → Option (Anchors × Node Nat)
  | .scalar p text style =>
      let (known, p) := known.enter p
      some (known, .scalar p text style)
  | .sequence p items => do
      let (known, p) := known.enter p
      let (known, items) ← numberItems known items
      return (known, .sequence p items)
  | .mapping p entries => do
      let (known, p) := known.enter p
      let (known, entries) ← numberEntries known entries
      return (known, .mapping p entries)
  | .alias name => (known.lookup name).map fun n => (known, .alias n)

def numberItems (known : Anchors) : List (Node String) → Option (Anchors × List (Node Nat))
  | [] => some (known, [])
  | item :: rest => do
      let (known, item) ← numberNode known item
      let (known, rest) ← numberItems known rest
      return (known, item :: rest)

def numberEntries (known : Anchors) :
    List (Node String × Node String) → Option (Anchors × List (Node Nat × Node Nat))
  | [] => some (known, [])
  | (key, value) :: rest => do
      let (known, key) ← numberNode known key
      let (known, value) ← numberNode known value
      let (known, rest) ← numberEntries known rest
      return (known, (key, value) :: rest)

end

def number? (n : Node String) : Option (Node Nat) := (numberNode [] n).map (·.2)

def anchor : Node Nat → Option Nat
  | .scalar p _ _ | .sequence p _ | .mapping p _ => p.anchor
  | .alias _ => none

mutual

def parts : Node Nat → List (Node Nat)
  | .scalar p text style => [.scalar p text style]
  | .sequence p items => .sequence p items :: partsOfItems items
  | .mapping p entries => .mapping p entries :: partsOfEntries entries
  | .alias n => [.alias n]

def partsOfItems : List (Node Nat) → List (Node Nat)
  | [] => []
  | item :: rest => item.parts ++ partsOfItems rest

def partsOfEntries : List (Node Nat × Node Nat) → List (Node Nat)
  | [] => []
  | (key, value) :: rest => key.parts ++ value.parts ++ partsOfEntries rest

end

def target? (document : Node Nat) (number : Nat) : Option (Node Nat) :=
  document.parts.reverse.find? (·.anchor == some number)

def resolve? (document : Node Nat) : Node Nat → Option (Node Nat)
  | .alias n => document.target? n
  | n => some n

end Node

end TemplateGrep.Yaml
