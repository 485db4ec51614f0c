import Mathlib
import TemplateGrep.CommandLine.Reader

/-! Command lines as they are written: switches, patterns, a config path and operands, in any order and
spelling, and what they say. -/

namespace TemplateGrep

def Switch.name : Switch → String
  | .wordBoundary => "word-boundary"
  | .ignoreCase => "ignore-case"
  | .noTemplate => "no-template"
  | .listTemplates => "list-templates"

namespace CommandLine

def Dashed (text : String) : Prop := ['-'] <+: text.toList

lemma ne_dashes_of_not_dashed {text : String} (h : ¬ Dashed text) : text ≠ "--" := by
  rintro rfl
  exact h ⟨['-'], by simp⟩

inductive Letter
  | w
  | i
  | E
  deriving DecidableEq, Repr

namespace Letter

def char : Letter → Char
  | .w => 'w'
  | .i => 'i'
  | .E => 'E'

def switch : Letter → Switch
  | .w => .wordBoundary
  | .i => .ignoreCase
  | .E => .noTemplate

end Letter

inductive Form
  | letter
  | name
  | equals
  deriving DecidableEq, Repr

inductive Item
  | switch (s : Switch)
  | letters (ls : List Letter) (value : Option String)
  | pattern (form : Form) (value : String)
  | config (form : Form) (path : String)
  | operand (text : String)
  deriving DecidableEq, Repr

namespace Item

def valued (letter : Char) (name value : String) : Form → List String
  | .letter => [String.ofList ['-', letter], value]
  | .name => ["--" ++ name, value]
  | .equals => ["--" ++ name ++ "=" ++ value]

def spelling : Item → List String
  | .switch s => ["--" ++ s.name]
  | .letters ls none => [String.ofList ('-' :: ls.map Letter.char)]
  | .letters ls (some value) => [String.ofList ('-' :: (ls.map Letter.char ++ ['e'])), value]
  | .pattern form value => valued 'e' "regexp" value form
  | .config form path => valued 'c' "config" path form
  | .operand text => [text]

def switches : Item → List Switch
  | .switch s => [s]
  | .letters ls _ => ls.map Letter.switch
  | _ => []

def patterns : Item → List String
  | .letters _ value => value.toList
  | .pattern _ value => [value]
  | _ => []

def path? : Item → Option String
  | .config _ path => some path
  | _ => none

def operands : Item → List String
  | .operand text => [text]
  | _ => []

def IsProper : Item → Prop
  | .letters ls _ => ls ≠ []
  | .config _ path => path ≠ "" ∧ ¬ Dashed path
  | .operand text => ¬ Dashed text
  | _ => True

end Item

def spelled (items : List Item) (behind : Option (List String)) : List String :=
  items.flatMap Item.spelling ++ (behind.map ("--" :: ·)).getD []

end CommandLine

open CommandLine

namespace Arguments

def withSwitches (a : Arguments) (ss : List Switch) : Arguments :=
  { a with
    wordBoundary := a.wordBoundary || decide (.wordBoundary ∈ ss)
    ignoreCase := a.ignoreCase || decide (.ignoreCase ∈ ss)
    noTemplate := a.noTemplate || decide (.noTemplate ∈ ss)
    listTemplates := a.listTemplates || decide (.listTemplates ∈ ss) }

def after (a : Arguments) (items : List Item) : Arguments :=
  { a.withSwitches (items.flatMap Item.switches) with
    patterns := a.patterns ++ items.flatMap Item.patterns
    config := a.config.or (items.findSome? Item.path?)
    operands := a.operands ++ items.flatMap Item.operands }

section After

variable (a : Arguments)

lemma withSwitches_cons (s : Switch) (ss : List Switch) :
    a.withSwitches (s :: ss) = (Reading.turnOn a s).withSwitches ss := by
  cases s <;> simp [withSwitches, Reading.turnOn]

lemma after_cons (item : Item) (items : List Item) :
    a.after (item :: items) = (a.after [item]).after items := by
  cases h : item.path? <;> cases hc : a.config <;>
    simp [after, withSwitches, h, hc, Bool.or_assoc, Bool.decide_or]

attribute [local simp] after withSwitches Item.switches Item.patterns Item.path? Item.operands

lemma after_switch (s : Switch) : a.after [.switch s] = Reading.turnOn a s := by
  cases s <;> simp [Reading.turnOn]

lemma after_letters (ls : List Letter) (value : Option String) :
    a.after [.letters ls value] =
      { a.withSwitches (ls.map Letter.switch) with patterns := a.patterns ++ value.toList } := by
  simp

lemma after_pattern (form : Form) (value : String) :
    a.after [.pattern form value] = { a with patterns := a.patterns ++ [value] } := by
  simp

lemma after_config {a : Arguments} (h : a.config = none) (form : Form) (path : String) :
    a.after [.config form path] = { a with config := some path } := by
  simp [h]

lemma after_operand (text : String) :
    a.after [.operand text] = { a with operands := a.operands ++ [text] } := by
  simp

end After

def written (items : List Item) (behind : Option (List String)) (inherited : Option String) :
    Arguments where
  wordBoundary := decide (.wordBoundary ∈ items.flatMap Item.switches)
  ignoreCase := decide (.ignoreCase ∈ items.flatMap Item.switches)
  noTemplate := decide (.noTemplate ∈ items.flatMap Item.switches)
  listTemplates := decide (.listTemplates ∈ items.flatMap Item.switches)
  patterns := items.flatMap Item.patterns
  config := (items.findSome? Item.path?).or inherited
  operands := items.flatMap Item.operands ++ behind.getD []

variable {items : List Item} {behind : Option (List String)} {inherited : Option String}

lemma written_ne_default (hproper : ∀ item ∈ items, item.IsProper)
    (hgiven : items ≠ [] ∨ behind.getD [] ≠ []) : written items behind inherited ≠ {} := by
  intro he
  have hswitches : ∀ s, s ∉ items.flatMap Item.switches := by
    intro s
    cases s with
    | wordBoundary => exact of_decide_eq_false (congrArg wordBoundary he)
    | ignoreCase => exact of_decide_eq_false (congrArg ignoreCase he)
    | noTemplate => exact of_decide_eq_false (congrArg noTemplate he)
    | listTemplates => exact of_decide_eq_false (congrArg listTemplates he)
  have hpatterns : items.flatMap Item.patterns = [] := congrArg patterns he
  have hconfig : items.findSome? Item.path? = none :=
    (Option.or_eq_none_iff.mp (congrArg config he)).1
  obtain ⟨hoperands, hbehind⟩ := List.append_eq_nil_iff.mp (congrArg operands he)
  cases items with
  | nil => exact hgiven.elim (fun h => h rfl) fun h => h hbehind
  | cons item items =>
    cases item with
    | switch s => exact hswitches s (by simp [Item.switches])
    | letters ls value =>
      obtain ⟨l, ls, rfl⟩ := List.exists_cons_of_ne_nil (hproper _ List.mem_cons_self)
      exact hswitches l.switch (by simp [Item.switches])
    | pattern form value => simp [Item.patterns] at hpatterns
    | config form path => simp [Item.path?] at hconfig
    | operand text => simp [Item.operands] at hoperands

end Arguments

end TemplateGrep
