import Mathlib
import TemplateGrep.Folder
import TemplateGrep.Proofs.Program.Output

namespace TemplateGrep

def Arguments.withFiles (a : Arguments) (files : List String) : Arguments :=
  { a with operands := if a.patterns.isEmpty then a.operands.take 1 ++ files else files }

lemma Arguments.patternsAndFiles?_withFiles {a : Arguments} {patterns files : List String}
    (h : a.patternsAndFiles? = some (patterns, files)) (others : List String) :
    (a.withFiles others).patternsAndFiles? = some (patterns, others) := by
  obtain ⟨_, _, _, _, options, _, operands⟩ := a
  cases options with
  | cons p ps =>
    obtain ⟨rfl, rfl⟩ : p :: ps = patterns ∧ operands = files := by
      simpa [patternsAndFiles?] using h
    rfl
  | nil =>
    cases operands with
    | nil => simp [patternsAndFiles?] at h
    | cons q qs =>
      obtain ⟨rfl, rfl⟩ : [q] = patterns ∧ qs = files := by simpa [patternsAndFiles?] using h
      rfl

namespace Search

structure Ready (a : Arguments) (openFile : OpenFile) (m : Matcher) (files : List String) :
    Prop where
  listTemplates : a.listTemplates = false
  compiled : ∃ c table patterns, Config.resolve openFile a.config = .ok c ∧
    c.table = .ok table ∧ a.patternsAndFiles? = some (patterns, files) ∧
    Matcher.compile table (patternOptions a c) patterns = .ok m

namespace Ready

variable {a : Arguments} {openFile : OpenFile} {m : Matcher} {files : List String}

lemma withFiles (h : Ready a openFile m files) (others : List String) :
    Ready (a.withFiles others) openFile m others := by
  obtain ⟨hl, c, table, patterns, hc, ht, hp, hm⟩ := h
  exact ⟨hl, c, table, patterns, hc, ht, Arguments.patternsAndFiles?_withFiles hp others, hm⟩

lemma congr (h : Ready a openFile m files) {other : OpenFile}
    (ho : Config.resolve other a.config = Config.resolve openFile a.config) :
    Ready a other m files := by
  obtain ⟨hl, c, table, patterns, hc, ht⟩ := h
  exact ⟨hl, c, table, patterns, ho.trans hc, ht⟩

lemma script_eq (h : Ready a openFile m files) (hne : files ≠ []) (stdin : Source) :
    script a ⟨stdin, openFile⟩ = filesScript m openFile files := by
  obtain ⟨hl, c, table, patterns, hc, ht, hp, hm⟩ := h
  simp only [script, hc, ht, scriptWith, hl, hp, patternsScript, hm, inputsScript]
  simp [hne]

end Ready

def alone (a : Arguments) (inputs : Inputs) (name : String) : Outcome :=
  run (a.withFiles [name]) inputs {}

def succeeds (a : Arguments) (inputs : Inputs) (name : String) : Bool :=
  (alone a inputs name).result.isOk

def searched (works : String → Bool) (files : List String) : List String :=
  files.takeWhile works ++ (files.find? fun name => !works name).toList

section Scripts

variable {m : Matcher} {openFile : OpenFile}

def works (m : Matcher) (openFile : OpenFile) (name : String) : Bool :=
  (fileScript m openFile name).result.isOk

lemma result_of_works {name : String} (h : works m openFile name = true) :
    (fileScript m openFile name).result = .ok () := by
  rw [works] at h
  cases hr : (fileScript m openFile name).result with
  | ok u => rfl
  | error e => simp [hr, Except.isOk, Except.toBool] at h

lemma result_of_not_works {name : String} (h : works m openFile name = false) :
    ∃ e, (fileScript m openFile name).result = .error e := by
  rw [works] at h
  cases hr : (fileScript m openFile name).result with
  | ok u => simp [hr, Except.isOk, Except.toBool] at h
  | error e => exact ⟨e, rfl⟩

lemma searched_cons (p : String → Bool) (name : String) (rest : List String) :
    searched p (name :: rest) = if p name then name :: searched p rest else [name] := by
  cases hp : p name with
  | true => simp [searched, hp]
  | false => simp [searched, hp]

lemma filesScript_eq (m : Matcher) (openFile : OpenFile) (files : List String) :
    (filesScript m openFile files).output =
        (searched (works m openFile) files).flatMap
          (fun name => (fileScript m openFile name).output) ∧
      (filesScript m openFile files).result =
        match files.find? fun name => !works m openFile name with
        | none => .ok ()
        | some name => (fileScript m openFile name).result := by
  induction files with
  | nil => exact ⟨rfl, rfl⟩
  | cons name rest ih =>
    obtain ⟨hout, hres⟩ := ih
    rw [filesScript, searched_cons, List.find?_cons]
    cases hw : works m openFile name with
    | true =>
      rw [Script.andThen_of_ok (result_of_works hw)]
      refine ⟨?_, hres⟩
      rw [if_pos rfl, List.flatMap_cons, ← hout]
      simp [Script.output]
    | false =>
      obtain ⟨e, he⟩ := result_of_not_works hw
      rw [Script.andThen_of_error he]
      exact ⟨by simp, rfl⟩

lemma filesScript_congr {other : OpenFile} {files : List String} (more : List String)
    (ho : ∀ name ∈ searched (works m openFile) files, other name = openFile name)
    (hmore : (∃ name ∈ files, works m openFile name = false) ∨ more = []) :
    filesScript m other (searched (works m openFile) files ++ more) =
      filesScript m openFile files := by
  have hfile : ∀ name, other name = openFile name →
      fileScript m other name = fileScript m openFile name := by
    intro name h
    rw [fileScript, h, fileScript]
  induction files with
  | nil =>
    have hnil : more = [] := hmore.resolve_left (by simp)
    rw [hnil]
    rfl
  | cons name rest ih =>
    have hname : fileScript m other name = fileScript m openFile name := by
      apply hfile
      apply ho
      rw [searched_cons]
      split <;> simp
    rw [searched_cons] at ho ⊢
    cases hw : works m openFile name with
    | true =>
      rw [if_pos hw] at ho
      rw [if_pos rfl, List.cons_append, filesScript, filesScript, hname, ih]
      · exact fun n hn => ho n (List.mem_cons_of_mem name hn)
      · rcases hmore with ⟨n, hn, hf⟩ | hnil
        · rcases List.mem_cons.mp hn with rfl | hn
          · simp [hw] at hf
          · exact .inl ⟨n, hn, hf⟩
        · exact .inr hnil
    | false =>
      obtain ⟨e, he⟩ := result_of_not_works hw
      rw [if_neg Bool.false_ne_true, List.cons_append, filesScript, filesScript, hname,
        Script.andThen_of_error he, Script.andThen_of_error he]

end Scripts

section Runs

variable {a : Arguments} {inputs : Inputs} {m : Matcher} {files : List String}

lemma ending_alone (h : Ready a inputs.openFile m files) (name : String) :
    (alone a inputs name).ending =
      ({ taken := (fileScript m inputs.openFile name).output },
        (fileScript m inputs.openFile name).result) := by
  have hs : script (a.withFiles [name]) inputs = fileScript m inputs.openFile name := by
    rw [(h.withFiles [name]).script_eq (List.cons_ne_nil _ _) inputs.stdin, filesScript,
      filesScript, Script.andThen_stop]
  rw [alone, ending_run_working, hs]

lemma succeeds_eq (h : Ready a inputs.openFile m files) :
    succeeds a inputs = works m inputs.openFile := by
  funext name
  rw [succeeds, works, (Outcome.eq_of_ending (ending_alone h name)).2]

lemma alone_of_not_opened (h : Ready a inputs.openFile m files) {name : String} {f : Fault}
    (ho : inputs.openFile name = .error f) :
    (alone a inputs name).sink.taken = [] ∧
      (alone a inputs name).result = .error (.io name f) := by
  obtain ⟨hsink, hresult⟩ := Outcome.eq_of_ending (ending_alone h name)
  rw [hsink, hresult, fileScript, ho]
  exact ⟨rfl, rfl⟩

lemma alone_of_opened (h : Ready a inputs.openFile m files) {name : String} {source : Source}
    (ho : inputs.openFile name = .ok source) :
    (alone a inputs name).sink.taken = (m.filter name source {}).1.taken ∧
      (alone a inputs name).result =
        match source.fault with
        | some f => .error (.io name f)
        | none => .ok () := by
  obtain ⟨hsink, hresult⟩ := Outcome.eq_of_ending (ending_alone h name)
  have hdirect : Sink.Direct {} := ⟨rfl, rfl⟩
  rw [hsink, hresult, fileScript, ho, Matcher.filter_eq_perform, hdirect.perform_eq]
  refine ⟨rfl, ?_⟩
  simp only [sourceScript, Script.void, Matcher.filterScript]
  cases source.fault <;> rfl

end Runs

/-- Many files are searched one by one, up to the first that fails. What is behind it has no
influence, nor has standard input. -/
theorem run_files_eq {a : Arguments} (inputs : Inputs) {m : Matcher} {files : List String}
    {s : Sink} (h : Ready a inputs.openFile m files) (hne : files ≠ []) (hroom : s.room = none)
    (hflush : s.flushFault = none) :
    (run a inputs s).sink.close =
        s.close ++ (searched (succeeds a inputs) files).flatMap
          (fun name => (alone a inputs name).sink.taken) ∧
      (run a inputs s).result =
        (match files.find? fun name => !succeeds a inputs name with
          | none => .ok ()
          | some name => (alone a inputs name).result) ∧
      (∀ name f, inputs.openFile name = .error f →
        (alone a inputs name).sink.taken = [] ∧
          (alone a inputs name).result = .error (.io name f)) ∧
      (∀ name source, inputs.openFile name = .ok source →
        (alone a inputs name).sink.taken = (m.filter name source {}).1.taken ∧
          (alone a inputs name).result =
            match source.fault with
            | some f => .error (.io name f)
            | none => .ok ()) ∧
      ∀ (stdin : Source) (other : OpenFile) (more : List String),
        Config.resolve other a.config = Config.resolve inputs.openFile a.config →
        (∀ name ∈ searched (succeeds a inputs) files, other name = inputs.openFile name) →
        (∃ name ∈ files, succeeds a inputs name = false) ∨ more = [] →
        (run (a.withFiles (searched (succeeds a inputs) files ++ more)) ⟨stdin, other⟩ s).ending =
          (run a inputs s).ending := by
  have hfile := fun name => Outcome.eq_of_ending (ending_alone h name)
  have hscript : script a inputs = filesScript m inputs.openFile files :=
    h.script_eq hne inputs.stdin
  obtain ⟨houtput, hresult⟩ := filesScript_eq m inputs.openFile files
  obtain ⟨t, hrun, hclose⟩ := exists_ending_run hroom hflush a inputs
  obtain ⟨hsink, hend⟩ := Outcome.eq_of_ending hrun
  refine ⟨?_, ?_, fun name f => alone_of_not_opened h, fun name source => alone_of_opened h, ?_⟩
  · simp only [hsink, hclose, hscript, houtput, succeeds_eq h, (hfile _).1]
  · simp only [hend, hscript, hresult, succeeds_eq h, (hfile _).2]
  · intro stdin other more hresolve hagree hmore
    rw [succeeds_eq h] at hagree hmore ⊢
    have hready := (h.congr hresolve).withFiles (searched (works m inputs.openFile) files ++ more)
    have hne' : searched (works m inputs.openFile) files ++ more ≠ [] := by
      obtain ⟨name, rest, rfl⟩ := List.exists_cons_of_ne_nil hne
      rw [searched_cons]
      split <;> simp
    rw [ending_run, ending_run, hready.script_eq hne', hscript, filesScript_congr more hagree hmore]

def smallFolder : Folder := { files := [(["f"], [0x62, 0x61])], folders := [["d"]] }

theorem run_files_eq_folder :
    Ready { operands := ["a", "f", "f", "d", "g"] } smallFolder.openFile
        ⟨[⟨"a", .literal [0x61]⟩]⟩ ["f", "f", "d", "g"] ∧
      ["f", "f", "d", "g"] ≠ [] ∧ ({} : Sink).room = none ∧ ({} : Sink).flushFault = none ∧
      (run { operands := ["a", "f", "f", "d", "g"] } ⟨.ofBytes [0x61], smallFolder.openFile⟩
        {}).sink.close = [0x62, 0x61, 0x0A, 0x62, 0x61, 0x0A] ∧
      (run { operands := ["a", "f", "f", "d", "g"] } ⟨.ofBytes [0x61], smallFolder.openFile⟩
        {}).result = .error (.io "d" .isDirectory) := by
  have hready : Ready { operands := ["a", "f", "f", "d", "g"] } smallFolder.openFile
      ⟨[⟨"a", .literal [0x61]⟩]⟩ ["f", "f", "d", "g"] :=
    ⟨rfl, {}, .builtin, ["a"], rfl, by decide +kernel, rfl, by decide +kernel⟩
  obtain ⟨hclose, hresult, -⟩ := run_files_eq ⟨.ofBytes [0x61], smallFolder.openFile⟩
    (s := {}) hready (by decide) rfl rfl
  refine ⟨hready, by decide, rfl, rfl, hclose.trans ?_, hresult.trans ?_⟩
  · decide +kernel
  · decide +kernel

end Search

end TemplateGrep
