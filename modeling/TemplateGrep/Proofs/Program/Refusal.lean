import Mathlib
import TemplateGrep.Proofs.Config.Validity
import TemplateGrep.Proofs.Program.Output
import TemplateGrep.Proofs.Search.Compilation

namespace TemplateGrep

def Failure.isUserFault : Failure → Bool
  | .io _ _ => false
  | _ => true

lemma Failure.exitCode_eq (f : Failure) :
    f.exitCode = if f.isUserFault then ExitCode.userError else ExitCode.ioFailure := by
  cases f <;> rfl

inductive Inputs.Fails (inputs : Inputs) : Fault → Prop
  | stdin {g} : inputs.stdin.fault = some g → inputs.Fails g
  | opening {name g} : inputs.openFile name = .error g → inputs.Fails g
  | reading {name source g} : inputs.openFile name = .ok source → source.fault = some g →
      inputs.Fails g

lemma Matcher.Refusal.isUserFault {table : Template.Table} {options : Template.PatternOptions}
    {index : Nat} {raw : String} {f : Failure} (h : Refusal table options index raw f) :
    f.isUserFault = true := by
  cases h <;> rfl

namespace Search

open Template (PatternOptions Table)

/-- What a run is refused for. Each cause is looked at only if those above it are absent; a listing is
refused for the config alone. -/
inductive Refused (a : Arguments) (openFile : OpenFile) : Failure → Prop
  | config {e} : Config.resolve openFile a.config = .error e → Refused a openFile (.config e)
  | noPattern {c} : Config.resolve openFile a.config = .ok c → a.listTemplates = false →
      a.patternsAndFiles? = none → Refused a openFile .noPattern
  | pattern {c table patterns files f} : Config.resolve openFile a.config = .ok c →
      c.table = .ok table → a.listTemplates = false →
      a.patternsAndFiles? = some (patterns, files) →
      Matcher.FirstRefusal table (patternOptions a c) 0 patterns f → Refused a openFile f

variable {a : Arguments} {inputs : Inputs} {s : Sink} {f : Failure}

lemma Refused.isUserFault {openFile : OpenFile} (h : Refused a openFile f) :
    f.isUserFault = true := by
  cases h with
  | config | noPattern => rfl
  | pattern _ _ _ _ hf =>
    obtain ⟨_, _, _, _, _, hr⟩ := hf
    exact hr.isUserFault

lemma Refused.congr {openFile other : OpenFile} (h : Refused a openFile f)
    (ho : ∀ path ∈ a.config, other path = openFile path) : Refused a other f := by
  have hresolve : Config.resolve other a.config = Config.resolve openFile a.config := by
    cases hp : a.config with
    | none => rfl
    | some path => simp only [Config.resolve, Config.load, Config.readFile, ho path hp]
  cases h with
  | config hc => exact .config (hresolve.trans hc)
  | noPattern hc hl hp => exact .noPattern (hresolve.trans hc) hl hp
  | pattern hc ht hl hp hf => exact .pattern (hresolve.trans hc) ht hl hp hf

lemma exists_of_sourceScript {m : Matcher} {name : String} {source : Source}
    (h : (sourceScript m name source).result = .error f) :
    ∃ g, f = .io name g ∧ source.fault = some g := by
  simp only [sourceScript, Script.void, Matcher.filterScript] at h
  cases hs : source.fault with
  | none => simp [hs, Except.map] at h
  | some g =>
    obtain rfl : .io name g = f := by simpa [hs, Except.map] using h
    exact ⟨g, rfl, rfl⟩

lemma exists_of_filesScript {m : Matcher} {files : List String}
    (h : (filesScript m inputs.openFile files).result = .error f) :
    ∃ name g, f = .io name g ∧ inputs.Fails g := by
  induction files with
  | nil => cases h
  | cons name rest ih =>
    rw [filesScript] at h
    cases hr : (fileScript m inputs.openFile name).result with
    | ok u => exact ih (by simpa only [Script.andThen_of_ok hr] using h)
    | error e =>
      obtain rfl : e = f := by simpa [Script.andThen_of_error hr, hr] using h
      rw [fileScript] at hr
      split at hr
      case h_1 g ho =>
        cases hr
        exact ⟨name, g, rfl, .opening ho⟩
      case h_2 source ho =>
        obtain ⟨g, rfl, hg⟩ := exists_of_sourceScript hr
        exact ⟨name, g, rfl, .reading ho hg⟩

lemma exists_of_inputsScript {m : Matcher} {files : List String}
    (h : (inputsScript m inputs files).result = .error f) :
    ∃ name g, f = .io name g ∧ inputs.Fails g := by
  rw [inputsScript] at h
  split at h
  · obtain ⟨g, rfl, hg⟩ := exists_of_sourceScript h
    exact ⟨stdinName, g, rfl, .stdin hg⟩
  · exact exists_of_filesScript h

lemma script_of_refused (h : Refused a inputs.openFile f) : script a inputs = .stop (.error f) := by
  rw [script]
  cases h with
  | config hc => rw [hc]
  | noPattern hc hl hp =>
    obtain ⟨t, ht⟩ := Config.exists_table_of_resolve hc
    simp [hc, ht, scriptWith, hl, hp]
  | pattern hc ht hl hp hf =>
    simp [hc, ht, scriptWith, hl, hp, patternsScript, Matcher.compile_eq_error_iff.mpr hf]

lemma refused_or_fails (h : (script a inputs).result = .error f) :
    Refused a inputs.openFile f ∨ ∃ name g, f = .io name g ∧ inputs.Fails g := by
  rw [script] at h
  split at h
  case h_1 e hc =>
    cases h
    exact .inl (.config hc)
  case h_2 c hc =>
    obtain ⟨t, ht⟩ := Config.exists_table_of_resolve hc
    simp only [ht, scriptWith] at h
    split at h
    case isTrue => cases h
    case isFalse hl =>
      have hl' : a.listTemplates = false := by simpa using hl
      split at h
      case h_1 hp =>
        cases h
        exact .inl (.noPattern hc hl' hp)
      case h_2 patterns files hp =>
        rw [patternsScript] at h
        split at h
        case h_1 g hg =>
          cases h
          exact .inl (.pattern hc ht hl' hp (Matcher.compile_eq_error_iff.mp hg))
        case h_2 m hm => exact .inr (exists_of_inputsScript h)

lemma refused_of_script (hf : f.isUserFault = true) (h : (script a inputs).result = .error f) :
    Refused a inputs.openFile f := by
  rcases refused_or_fails h with h | ⟨name, g, rfl, -⟩
  · exact h
  · cases hf

lemma result_of_finish_perform {p : Script Unit} (hf : f.isUserFault = true)
    (h : (Sink.finish (s.perform p)).2 = .error f) : p.result = .error f := by
  rw [Sink.perform] at h
  rcases hw : Sink.writeAll p.writes s with ⟨t, _ | g⟩
  · cases hr : p.result with
    | error e => simpa [hw, hr, Sink.finish] using h
    | ok u =>
      rcases ht : t.flush with ⟨v, _ | g⟩
      · simp [hw, hr, Sink.finish, ht] at h
      · obtain rfl : .io stdoutName g = f := by simpa [hw, hr, Sink.finish, ht] using h
        cases hf
  · obtain rfl : .io stdoutName g = f := by simpa [hw, Sink.finish] using h
    cases hf

lemma ending_of_refused (h : Refused a inputs.openFile f) :
    (run a inputs s).ending = (s, .error f) := by
  rw [ending_run, script_of_refused h]
  rfl

lemma result_eq_error_iff (hf : f.isUserFault = true) :
    (run a inputs s).result = .error f ↔ Refused a inputs.openFile f := by
  refine ⟨fun h => refused_of_script hf ?_, fun h => (Outcome.eq_of_ending (ending_of_refused h)).2⟩
  refine result_of_finish_perform (s := s) hf ?_
  rw [← ending_run]
  exact h

/-- Whether a run is refused for what the user gave, and why, is decided by the arguments and the
config. The sink is not touched, and a listing looks at no pattern. -/
theorem run_refused (a : Arguments) (inputs : Inputs) (s : Sink) :
    (∀ f : Failure, f.isUserFault = true →
      ((run a inputs s).result = .error f ↔ Refused a inputs.openFile f) ∧
        ((run a inputs s).result = .error f → (run a inputs s).sink = s)) ∧
    (∀ (other : Inputs) (t : Sink),
      (∀ path ∈ a.config, other.openFile path = inputs.openFile path) →
      ∀ f : Failure, f.isUserFault = true →
        ((run a other t).result = .error f ↔ (run a inputs s).result = .error f)) ∧
    (a.listTemplates = true → ∀ b : Arguments, b.listTemplates = true → b.config = a.config →
      run b inputs s = run a inputs s) := by
  refine ⟨fun f hf => ⟨result_eq_error_iff hf, fun h => ?_⟩, fun other t ho f hf => ?_, ?_⟩
  · exact (Outcome.eq_of_ending (ending_of_refused ((result_eq_error_iff hf).mp h))).1
  · rw [result_eq_error_iff hf, result_eq_error_iff hf]
    exact ⟨fun h => h.congr fun path hp => (ho path hp).symm, fun h => h.congr ho⟩
  · intro hl b hb hc
    simp only [run, runWith, hl, hb, hc, if_true]

theorem run_refused_second :
    Failure.isUserFault (.template 1 (.unclosed 0)) = true ∧
      Refused { patterns := ["a", "\x7b\x7bint"] } (fun _ => .error .notFound)
        (.template 1 (.unclosed 0)) ∧
      (run { patterns := ["a", "\x7b\x7bint"] }
        ⟨.failing .isDirectory, fun _ => .error .notFound⟩ { room := some 0 }).result =
          .error (.template 1 (.unclosed 0)) ∧
      (run { patterns := ["a", "\x7b\x7bint"] }
        ⟨.failing .isDirectory, fun _ => .error .notFound⟩ { room := some 0 }).sink =
          { room := some 0 } := by
  have hf : Failure.isUserFault (.template 1 (.unclosed 0)) = true := rfl
  have hfirst : Matcher.FirstRefusal Table.builtin {} 0 ["a", "\x7b\x7bint"]
      (.template 1 (.unclosed 0)) :=
    ⟨["a"], _, [], rfl, by simpa using ⟨"a", .literal [0x61], by decide +kernel⟩,
      .template (by decide +kernel)⟩
  have hrefused : Refused { patterns := ["a", "\x7b\x7bint"] } (fun _ => .error .notFound)
      (.template 1 (.unclosed 0)) :=
    .pattern (c := {}) rfl Config.table_default rfl rfl hfirst
  obtain ⟨hrun, -⟩ := run_refused { patterns := ["a", "\x7b\x7bint"] }
    ⟨.failing .isDirectory, fun _ => .error .notFound⟩ { room := some 0 }
  obtain ⟨hiff, hsink⟩ := hrun _ hf
  exact ⟨hf, hrefused, hiff.mpr hrefused, hsink (hiff.mpr hrefused)⟩

end Search

end TemplateGrep
