import Mathlib
import TemplateGrep.Config.Load

namespace TemplateGrep.Config

open Template (Table)

lemma validate_eq (c : Config) :
    c.validate = match c.table with
      | .ok _ => .ok ()
      | .error e => .error e := by
  rw [validate]
  cases c.table <;> rfl

lemma table_default : ({} : Config).table = .ok Table.builtin := rfl

def parsed? (text : String) : Except ConfigError Config :=
  if Text.isBlank text then .ok {}
  else
    match (Yaml.document? text).bind ofDocument? with
    | some c => .ok c
    | none => .error .malformed

lemma ofYaml_eq (text : String) :
    ofYaml text = match parsed? text with
      | .error e => .error e
      | .ok c => c.validate.map fun _ => c := by
  have hvalid : ∀ c : Config,
      (do c.validate; return c : Except ConfigError Config) = c.validate.map fun _ => c := by
    intro c
    cases c.validate <;> rfl
  rw [ofYaml, parsed?]
  split
  · exact hvalid {}
  · cases (Yaml.document? text).bind ofDocument? with
    | none => rfl
    | some c => exact hvalid c

lemma exists_table_of_ofYaml {text : String} {c : Config} (h : ofYaml text = .ok c) :
    ∃ t, c.table = .ok t := by
  rw [ofYaml_eq] at h
  cases hp : parsed? text with
  | error e => simp [hp] at h
  | ok d =>
    simp only [hp, validate_eq] at h
    cases ht : d.table with
    | error e => simp [ht, Except.map] at h
    | ok t =>
      obtain rfl : d = c := by simpa [ht, Except.map] using h
      exact ⟨t, ht⟩

lemma exists_table_of_resolve {openFile : OpenFile} {path : Option String} {c : Config}
    (h : resolve openFile path = .ok c) : ∃ t, c.table = .ok t := by
  cases path with
  | none =>
    cases h
    exact ⟨Table.builtin, table_default⟩
  | some path =>
    rw [resolve, load] at h
    split at h
    · exact exists_table_of_ofYaml h
    · cases h

end TemplateGrep.Config
