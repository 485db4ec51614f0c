import Mathlib
import TemplateGrep.Folder
import TemplateGrep.Program.Report
import TemplateGrep.Proofs.Program.Refusal
import TemplateGrep.Proofs.Stream.Blocked

namespace TemplateGrep

/-- A folder of plain files satisfies this. A read from a device need not. -/
def Inputs.NoBrokenPipe (inputs : Inputs) : Prop :=
  ∀ g, inputs.Fails g → g.brokenPipe = false

section Folders

variable {d : Folder} {path : String} {g : Fault}

lemma Folder.brokenPipe_follow {place : Option Route} {parts : List String}
    (h : d.follow place parts = .error g) : g.brokenPipe = false := by
  fun_induction Folder.follow d place parts <;> simp_all
  all_goals subst h; rfl

lemma Folder.brokenPipe_find (h : d.find path = .error g) : g.brokenPipe = false := by
  rw [find] at h
  split at h
  · cases h
    rfl
  split at h
  · cases h
    rfl
  split at h
  · cases h
    rfl
  split at h <;> exact brokenPipe_follow h

lemma Folder.noBrokenPipe (d : Folder) (chunks : List Bytes) :
    Inputs.NoBrokenPipe ⟨⟨chunks, none⟩, d.openFile⟩ := by
  intro g h
  cases h with
  | stdin h => cases h
  | @opening name _ h =>
    cases hf : d.find name with
    | error g' =>
      obtain rfl : g' = g := by simpa [openFile, hf] using h
      exact brokenPipe_find hf
    | ok found => cases found <;> simp [openFile, hf] at h
  | @reading name source _ h hg =>
    cases hf : d.find name with
    | error g' => simp [openFile, hf] at h
    | ok found =>
      cases found with
      | file content =>
        obtain rfl : Source.ofBytes content = source := by simpa [openFile, hf] using h
        cases hg
      | folder =>
        obtain rfl : Source.failing .isDirectory = source := by simpa [openFile, hf] using h
        cases hg
        rfl

end Folders

lemma LogRecord.isShown_warn (r : LogRecord) : r.isShown .warn = false := by
  cases r <;> rfl

lemma Setting.shown_eq_nil {s : Setting} (h : s.logVariable = none) (log : List LogRecord) :
    s.shown log = [] := by
  simp [shown, h, LogLevel.ofVariable, LogRecord.isShown_warn]

lemma Sink.finish_perform_blocked {s : Sink} (hroom : s.room = some 0) (hheld : s.held = [])
    (hflush : s.flushFault = none) (p : Script Unit) :
    ((finish (s.perform p)).2 = p.result ∧ (p.result = .ok () → p.output = [])) ∨
      ((finish (s.perform p)).2 = .error (.io stdoutName s.fault) ∧ p.output ≠ []) := by
  rw [perform]
  rcases writeAll_blocked hroom p.writes with ⟨t, hw, ht⟩ | ⟨hne, t, hw⟩
  · have hout : t.held = p.output := by rw [ht.held, hheld]; rfl
    rw [hw]
    dsimp only
    cases hr : p.result with
    | error e => exact .inl ⟨rfl, by simp⟩
    | ok u =>
      rcases eq_or_ne p.output [] with hnil | hne
      · rw [finish, flush_of_held_nil (hout.trans hnil), ht.flushFault, hflush]
        exact .inl ⟨rfl, fun _ => hnil⟩
      · obtain ⟨v, hv⟩ := flush_blocked ht.room (hout ▸ hne)
        rw [finish, hv, ht.fault]
        exact .inr ⟨rfl, hne⟩
  · rw [hw]
    rw [hheld] at hne
    exact .inr ⟨rfl, hne⟩

namespace Search

variable {s : Setting} {a : Arguments} {inputs : Inputs}

def undisturbed (a : Arguments) (inputs : Inputs) : Outcome := run a inputs {}

lemma undisturbed_eq (a : Arguments) (inputs : Inputs) :
    (undisturbed a inputs).sink.taken = (script a inputs).output ∧
      (undisturbed a inputs).result = (script a inputs).result := by
  obtain ⟨hsink, hresult⟩ := Outcome.eq_of_ending (ending_run_working a inputs)
  exact ⟨by rw [undisturbed, hsink], hresult⟩

/-! ### Reports -/

def exitCodeOf : Except Failure Unit → Nat
  | .ok () => 0
  | .error e => if e.isBrokenPipe then 0 else if e.isUserFault then 1 else 2

def errorTextOf : Except Failure Unit → String
  | .ok () => ""
  | .error e => if e.isBrokenPipe then "" else e.complaint.text

lemma exitCode_report (s : Setting) (o : Outcome) :
    (report s o).exitCode = exitCodeOf o.result := by
  rw [report]
  cases o.result with
  | ok u => rfl
  | error e =>
    dsimp only
    rw [exitCodeOf]
    split
    · rfl
    · exact e.exitCode_eq

lemma errorText_report (hlog : s.logVariable = none) (o : Outcome) :
    (report s o).errorText = errorTextOf o.result := by
  rw [report]
  cases o.result with
  | ok u => simp [Report.errorText, Setting.shown_eq_nil hlog, errorTextOf]
  | error e =>
    dsimp only
    rw [errorTextOf]
    split <;> simp [Report.errorText, Setting.shown_eq_nil hlog]

lemma program_eq (hread : Arguments.read Usage.search s.configVariable s.args = .ok a)
    (d : Device) :
    program { s with output := d } = report s (run a s.inputs (d.sink outputCapacity)) := by
  rw [program, hread]
  rfl

/-! ### Devices -/

lemma run_working (a : Arguments) (inputs : Inputs) :
    (run a inputs (Device.working.sink outputCapacity)).sink.close = (script a inputs).output ∧
      (run a inputs (Device.working.sink outputCapacity)).result = (script a inputs).result := by
  obtain ⟨t, hrun, hclose⟩ := exists_ending_run (s := Device.working.sink outputCapacity) rfl rfl a
    inputs
  obtain ⟨hsink, hresult⟩ := Outcome.eq_of_ending hrun
  exact ⟨by rw [hsink, hclose]; rfl, hresult⟩

lemma run_broken (a : Arguments) (inputs : Inputs) (f : Fault) :
    let r := (run a inputs ((Device.broken f).sink outputCapacity)).result
    (r = (script a inputs).result ∧
        ((script a inputs).result = .ok () → (script a inputs).output = [])) ∨
      (r = .error (.io stdoutName f) ∧ (script a inputs).output ≠ []) := by
  have h := Sink.finish_perform_blocked (s := (Device.broken f).sink outputCapacity) rfl rfl rfl
    (script a inputs)
  rw [← ending_run] at h
  exact h

lemma exists_of_isBrokenPipe {e : Failure} (h : (script a inputs).result = .error e)
    (hpipe : e.isBrokenPipe = true) :
    ∃ name g, e = .io name g ∧ inputs.Fails g ∧ g.brokenPipe = true := by
  rcases refused_or_fails h with hr | ⟨name, g, rfl, hg⟩
  · have hu := hr.isUserFault
    cases e with
    | io => cases hu
    | _ => cases hpipe
  · exact ⟨name, g, rfl, hg, hpipe⟩

lemma output_of_userFault {e : Failure} (h : (script a inputs).result = .error e)
    (hu : e.isUserFault = true) : (script a inputs).output = [] := by
  rw [script_of_refused (refused_of_script hu h)]
  rfl

lemma exitCode_broken
    (hpipe : ∀ e, (script a inputs).result = .error e → e.isBrokenPipe = false)
    {f : Fault} (hf : f.brokenPipe = false) :
    exitCodeOf (run a inputs ((Device.broken f).sink outputCapacity)).result =
      match (script a inputs).result with
      | .ok () => if (script a inputs).output = [] then 0 else 2
      | .error e => if e.isUserFault then 1 else 2 := by
  have hio : exitCodeOf (.error (.io stdoutName f)) = 2 := by
    simp [exitCodeOf, Failure.isBrokenPipe, Failure.isUserFault, hf]
  rcases run_broken a inputs f with ⟨hr, hnil⟩ | ⟨hr, hne⟩
  · rw [hr]
    cases h : (script a inputs).result with
    | ok u => simp [exitCodeOf, hnil h]
    | error e => simp [exitCodeOf, hpipe e h]
  · rw [hr, hio]
    cases h : (script a inputs).result with
    | ok u => simp [hne]
    | error e =>
      have hu : e.isUserFault ≠ true := fun hu => hne (output_of_userFault h hu)
      simp [hu]

/-! ### The program -/

/-- The exit code and standard error tell what became of the output. A device whose fault is a broken
pipe stands for output that nobody reads. -/
structure Truthful (s : Setting) (a : Arguments) : Prop where
  delivered : (program { s with output := .working }).output = (undisturbed a s.inputs).sink.taken
  working :
    match (undisturbed a s.inputs).result with
    | .ok () =>
        (program { s with output := .working }).exitCode = 0 ∧
          (program { s with output := .working }).errorText = ""
    | .error e =>
        (program { s with output := .working }).exitCode = (if e.isUserFault then 1 else 2) ∧
          (program { s with output := .working }).errorText =
            "Error: " ++ (if e.lacksReason then e.message else e.message ++ "\n")
  full (f : Fault) : f.brokenPipe = false →
    ((program { s with output := .broken f }).exitCode = 0 ↔
      (undisturbed a s.inputs).result = .ok () ∧ (undisturbed a s.inputs).sink.taken = []) ∧
    ((program { s with output := .broken f }).exitCode = 1 ↔
      (program { s with output := .working }).exitCode = 1) ∧
    ((program { s with output := .broken f }).exitCode ≠ 0 →
      (program { s with output := .broken f }).exitCode ≠ 1 →
      (program { s with output := .broken f }).exitCode = 2)
  unread (f : Fault) : f.brokenPipe = true → (undisturbed a s.inputs).result = .ok () →
    (program { s with output := .broken f }).exitCode = 0 ∧
      (program { s with output := .broken f }).errorText = ""

lemma output_program_working
    (hread : Arguments.read Usage.search s.configVariable s.args = .ok a) :
    (program { s with output := .working }).output = (undisturbed a s.inputs).sink.taken := by
  rw [program_eq hread, (undisturbed_eq a s.inputs).1, ← (run_working a s.inputs).1, report]
  cases (run a s.inputs (Device.working.sink outputCapacity)).result with
  | ok u => rfl
  | error e =>
    dsimp only
    split <;> rfl

lemma program_working (hread : Arguments.read Usage.search s.configVariable s.args = .ok a)
    (hlog : s.logVariable = none) :
    (program { s with output := .working }).exitCode =
        exitCodeOf (undisturbed a s.inputs).result ∧
      (program { s with output := .working }).errorText =
        errorTextOf (undisturbed a s.inputs).result := by
  rw [program_eq hread, exitCode_report, errorText_report hlog, (run_working a s.inputs).2,
    (undisturbed_eq a s.inputs).2]
  exact ⟨rfl, rfl⟩

lemma truthful_of_not_isBrokenPipe
    (hread : Arguments.read Usage.search s.configVariable s.args = .ok a)
    (hlog : s.logVariable = none)
    (hpipe : ∀ e, (undisturbed a s.inputs).result = .error e → e.isBrokenPipe = false) :
    Truthful s a := by
  obtain ⟨houtput, hresult⟩ := undisturbed_eq a s.inputs
  obtain ⟨hcode, htext⟩ := program_working hread hlog
  refine ⟨output_program_working hread, ?_, fun f hf => ?_, fun f hf hok => ?_⟩
  · rw [hcode, htext]
    cases h : (undisturbed a s.inputs).result with
    | ok u => exact ⟨rfl, rfl⟩
    | error e =>
      simp only [exitCodeOf, errorTextOf, hpipe e h]
      exact ⟨rfl, rfl⟩
  · rw [hresult] at hpipe
    rw [hcode, program_eq hread, exitCode_report, exitCode_broken hpipe hf, houtput, hresult]
    cases h : (script a s.inputs).result with
    | ok u => by_cases hnil : (script a s.inputs).output = [] <;> simp [exitCodeOf, hnil]
    | error e => cases hu : e.isUserFault <;> simp [exitCodeOf, hpipe e h, hu]
  · rw [program_eq hread, exitCode_report, errorText_report hlog]
    rcases run_broken a s.inputs f with ⟨hr, -⟩ | ⟨hr, -⟩
    · rw [hr, ← hresult, hok]
      exact ⟨rfl, rfl⟩
    · rw [hr]
      simp [exitCodeOf, errorTextOf, Failure.isBrokenPipe, hf]

lemma program_of_isBrokenPipe
    (hread : Arguments.read Usage.search s.configVariable s.args = .ok a)
    (hlog : s.logVariable = none) {e : Failure}
    (he : (undisturbed a s.inputs).result = .error e) (hpipe : e.isBrokenPipe = true) :
    (∃ name g, e = .io name g ∧ s.inputs.Fails g ∧ g.brokenPipe = true) ∧
      (program { s with output := .working }).output = (undisturbed a s.inputs).sink.taken ∧
      (program { s with output := .working }).exitCode = 0 ∧
      (program { s with output := .working }).errorText = "" := by
  obtain ⟨hcode, htext⟩ := program_working hread hlog
  have hscript := (undisturbed_eq a s.inputs).2.symm.trans he
  refine ⟨exists_of_isBrokenPipe hscript hpipe, output_program_working hread, ?_, ?_⟩
  · rw [hcode, he, exitCodeOf, if_pos hpipe]
  · rw [htext, he, errorTextOf, if_pos hpipe]

/-- The program is truthful if and only if no read ends the run with a broken pipe. If one does, the
failure looks like output that nobody reads and is hidden. -/
theorem program_truthful_iff (hread : Arguments.read Usage.search s.configVariable s.args = .ok a)
    (hlog : s.logVariable = none) :
    (Truthful s a ↔
        ∀ e, (undisturbed a s.inputs).result = .error e → e.isBrokenPipe = false) ∧
      (s.inputs.NoBrokenPipe → Truthful s a) ∧
      ∀ e, (undisturbed a s.inputs).result = .error e → e.isBrokenPipe = true →
        (∃ name g, e = .io name g ∧ s.inputs.Fails g ∧ g.brokenPipe = true) ∧
          (program { s with output := .working }).output = (undisturbed a s.inputs).sink.taken ∧
          (program { s with output := .working }).exitCode = 0 ∧
          (program { s with output := .working }).errorText = "" := by
  refine ⟨⟨fun h e he => ?_, truthful_of_not_isBrokenPipe hread hlog⟩, fun hinputs => ?_,
    fun e => program_of_isBrokenPipe hread hlog⟩
  · -- the exit code of a fault is not zero, but that of a hidden one is
    by_contra hne
    obtain ⟨-, -, hzero, -⟩ :=
      program_of_isBrokenPipe hread hlog he (Bool.eq_true_of_not_eq_false hne)
    have hworking := h.working
    rw [he, hzero] at hworking
    obtain ⟨hexit, -⟩ := hworking
    split at hexit <;> cases hexit
  · refine truthful_of_not_isBrokenPipe hread hlog fun e he => ?_
    by_contra hne
    obtain ⟨⟨_, g, -, hfails, hg⟩, -⟩ :=
      program_of_isBrokenPipe hread hlog he (Bool.eq_true_of_not_eq_false hne)
    rw [hinputs g hfails] at hg
    cases hg

def folderSetting : Setting where
  args := ["a", "f", "d"]
  inputs := ⟨⟨[], none⟩,
    Folder.openFile { files := [(["f"], [0x62, 0x61])], folders := [["d"]] }⟩

theorem program_truthful_iff_folder :
    Arguments.read Usage.search folderSetting.configVariable folderSetting.args =
        .ok { operands := ["a", "f", "d"] } ∧
      folderSetting.logVariable = none ∧ folderSetting.inputs.NoBrokenPipe ∧
      Truthful folderSetting { operands := ["a", "f", "d"] } ∧
      (program { folderSetting with output := .working }).output = [0x62, 0x61, 0x0A] ∧
      (program { folderSetting with output := .working }).exitCode = 2 ∧
      (program { folderSetting with output := .working }).errorText =
        "Error: I/O error on d: Is a directory (os error 21)\n" ∧
      (program { folderSetting with output := .broken .noSpace }).exitCode ≠ 0 := by
  have hread : Arguments.read Usage.search folderSetting.configVariable folderSetting.args =
      .ok { operands := ["a", "f", "d"] } := by decide +kernel
  have hpipe : folderSetting.inputs.NoBrokenPipe := Folder.noBrokenPipe _ []
  have htaken : (undisturbed { operands := ["a", "f", "d"] } folderSetting.inputs).sink.taken =
      [0x62, 0x61, 0x0A] := by decide +kernel
  have hresult : (undisturbed { operands := ["a", "f", "d"] } folderSetting.inputs).result =
      .error (.io "d" .isDirectory) := by decide +kernel
  have h := (program_truthful_iff hread rfl).2.1 hpipe
  have hend := h.working
  rw [hresult] at hend
  refine ⟨hread, rfl, hpipe, h, h.delivered.trans htaken, hend.1,
    hend.2.trans (by decide +kernel), ?_⟩
  intro hzero
  have hok := ((h.full .noSpace rfl).1.mp hzero).1
  rw [hresult] at hok
  cases hok

def pipeSetting : Setting where
  args := ["a"]
  inputs := ⟨⟨[[0x61, 0x0A]], some .closedPipe⟩, Folder.openFile {}⟩

/-- Behind a first line standard input fails with a broken pipe. The program says nothing about it, and
nothing in front of a full device, where the line is lost too. -/
theorem program_hides_readFault :
    Arguments.read Usage.search pipeSetting.configVariable pipeSetting.args =
        .ok { operands := ["a"] } ∧
      pipeSetting.logVariable = none ∧
      (undisturbed { operands := ["a"] } pipeSetting.inputs).sink.taken = [0x61, 0x0A] ∧
      (undisturbed { operands := ["a"] } pipeSetting.inputs).result =
        .error (.io stdinName .closedPipe) ∧
      (Failure.io stdinName .closedPipe).exitCode = 2 ∧
      (program { pipeSetting with output := .working }).exitCode = 0 ∧
      (program { pipeSetting with output := .working }).errorText = "" ∧
      (program { pipeSetting with output := .broken .noSpace }).exitCode = 0 ∧
      (program { pipeSetting with output := .broken .noSpace }).output = [] ∧
      ¬ Truthful pipeSetting { operands := ["a"] } := by
  have hresult : (undisturbed { operands := ["a"] } pipeSetting.inputs).result =
      .error (.io stdinName .closedPipe) := by decide +kernel
  have hexit : (program { pipeSetting with output := .working }).exitCode = 0 := by decide +kernel
  refine ⟨by decide +kernel, rfl, by decide +kernel, hresult, rfl, hexit, by decide +kernel,
    by decide +kernel, by decide +kernel, fun h => ?_⟩
  have hworking := h.working
  rw [hresult, hexit] at hworking
  exact absurd hworking.1 (by decide)

end Search

end TemplateGrep
