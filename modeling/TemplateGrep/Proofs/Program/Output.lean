import Mathlib
import TemplateGrep.Program.Search
import TemplateGrep.Proofs.Search.Filtering

/-! What a run writes and how it ends is fixed before its sink is looked at. So a sink that fails
takes a beginning of what a working one takes. -/

namespace TemplateGrep

def Outcome.ending (o : Outcome) : Sink × Except Failure Unit := (o.sink, o.result)

def Sink.finish : Sink × Except Failure Unit → Sink × Except Failure Unit
  | (s, .error e) => (s, .error e)
  | (s, .ok ()) =>
      match s.flush with
      | (s, some f) => (s, .error (.io stdoutName f))
      | (s, none) => (s, .ok ())

lemma Outcome.eq_of_ending {o : Outcome} {s : Sink} {r : Except Failure Unit}
    (h : o.ending = (s, r)) : o.sink = s ∧ o.result = r :=
  Prod.mk.inj h

lemma Outcome.ending_flush (o : Outcome) : o.flush.ending = Sink.finish o.ending := by
  obtain ⟨log, sink, result⟩ := o
  cases result with
  | error e => rfl
  | ok u =>
    simp only [flush, ending, Sink.finish]
    rcases sink.flush with ⟨t, _ | f⟩ <;> rfl

lemma Outcome.ending_after (log : List LogRecord) (o : Outcome) : (o.after log).ending = o.ending :=
  rfl

lemma Matcher.compile_eq (table : Template.Table) (options : Template.PatternOptions)
    (raws : List String) :
    compile table options raws =
      match (compileFrom table options 0 raws).2 with
      | none => .ok ⟨(compileFrom table options 0 raws).1⟩
      | some f => .error f := by
  rw [compile]
  rcases compileFrom table options 0 raws with ⟨ps, _ | f⟩ <;> rfl

namespace Search

open Template (PatternOptions Table)

def listScript (table : Table) : Script Unit :=
  ⟨[Bytes.ofString (Template.Listing.render table)], .ok ()⟩

def sourceScript (m : Matcher) (name : String) (source : Source) : Script Unit :=
  (m.filterScript name source).void

def fileScript (m : Matcher) (openFile : OpenFile) (name : String) : Script Unit :=
  match openFile name with
  | .error f => .stop (.error (.io name f))
  | .ok source => sourceScript m name source

def filesScript (m : Matcher) (openFile : OpenFile) : List String → Script Unit
  | [] => .stop (.ok ())
  | name :: rest => (fileScript m openFile name).andThen (filesScript m openFile rest)

def inputsScript (m : Matcher) (inputs : Inputs) (files : List String) : Script Unit :=
  if files.isEmpty then sourceScript m stdinName inputs.stdin
  else filesScript m inputs.openFile files

def patternsScript (table : Table) (options : PatternOptions) (patterns files : List String)
    (inputs : Inputs) : Script Unit :=
  match Matcher.compile table options patterns with
  | .error f => .stop (.error f)
  | .ok m => inputsScript m inputs files

def scriptWith (a : Arguments) (c : Config) (table : Table) (inputs : Inputs) : Script Unit :=
  if a.listTemplates then listScript table
  else
    match a.patternsAndFiles? with
    | none => .stop (.error .noPattern)
    | some (patterns, files) => patternsScript table (patternOptions a c) patterns files inputs

def script (a : Arguments) (inputs : Inputs) : Script Unit :=
  match Config.resolve inputs.openFile a.config with
  | .error e => .stop (.error (.config e))
  | .ok c =>
      match c.table with
      | .error e => .stop (.error (.config e))
      | .ok table => scriptWith a c table inputs

lemma ending_listTemplates (table : Table) (s : Sink) :
    (listTemplates table s).ending = Sink.finish (s.perform (listScript table)) := by
  simp only [listTemplates, listScript, Sink.perform, Sink.writeAll]
  rcases s.write (Bytes.ofString (Template.Listing.render table)) with ⟨t, _ | f⟩
  · exact Outcome.ending_flush _
  · rfl

lemma ending_searchSource (m : Matcher) (name : String) (source : Source) (s : Sink) :
    (searchSource m name source s).ending = s.perform (sourceScript m name source) := by
  rw [searchSource, sourceScript, Sink.perform_void, Matcher.filter_eq_perform]
  rcases s.perform (m.filterScript name source) with ⟨t, e | n⟩ <;> rfl

lemma ending_searchFiles (m : Matcher) (openFile : OpenFile) (files : List String) (s : Sink) :
    (searchFiles m openFile files s).ending = s.perform (filesScript m openFile files) := by
  induction files generalizing s with
  | nil => rfl
  | cons name rest ih =>
    rw [searchFiles, filesScript, Sink.perform_andThen, fileScript]
    cases openFile name with
    | error f => rfl
    | ok source =>
      dsimp only
      rw [← ending_searchSource]
      rcases searchSource m name source s with ⟨log, t, e | u⟩
      · rfl
      · exact ih t

lemma ending_searchInputs (m : Matcher) (inputs : Inputs) (files : List String) (s : Sink) :
    (searchInputs m inputs files s).ending =
      Sink.finish (s.perform (inputsScript m inputs files)) := by
  rw [searchInputs, Outcome.ending_flush, inputsScript]
  split
  · rw [ending_searchSource]
  · rw [ending_searchFiles]

lemma ending_searchPatterns (table : Table) (options : PatternOptions)
    (patterns files : List String) (inputs : Inputs) (s : Sink) :
    (searchPatterns table options patterns files inputs s).ending =
      Sink.finish (s.perform (patternsScript table options patterns files inputs)) := by
  rw [searchPatterns, Outcome.ending_after, patternsScript, Matcher.compile_eq]
  rcases Matcher.compileFrom table options 0 patterns with ⟨ps, _ | f⟩
  · exact ending_searchInputs ⟨ps⟩ inputs files s
  · rfl

lemma ending_runWith (a : Arguments) (c : Config) (table : Table) (inputs : Inputs) (s : Sink) :
    (runWith a c table inputs s).ending = Sink.finish (s.perform (scriptWith a c table inputs)) := by
  rw [runWith, scriptWith]
  split
  · exact ending_listTemplates table s
  · rcases a.patternsAndFiles? with _ | ⟨patterns, files⟩
    · rfl
    · exact ending_searchPatterns table (patternOptions a c) patterns files inputs s

lemma ending_run (a : Arguments) (inputs : Inputs) (s : Sink) :
    (run a inputs s).ending = Sink.finish (s.perform (script a inputs)) := by
  rw [run, script]
  cases Config.resolve inputs.openFile a.config with
  | error e => rfl
  | ok c =>
    dsimp only
    rw [Outcome.ending_after]
    cases c.table with
    | error e => rfl
    | ok table => exact ending_runWith a c table inputs s

lemma exists_ending_run {s : Sink} (hroom : s.room = none) (hflush : s.flushFault = none)
    (a : Arguments) (inputs : Inputs) :
    ∃ t, (run a inputs s).ending = (t, (script a inputs).result) ∧
      t.close = s.close ++ (script a inputs).output := by
  obtain ⟨t, hperform, ht⟩ := Sink.exists_perform hroom (script a inputs)
  rw [ending_run, hperform]
  cases (script a inputs).result with
  | error e => exact ⟨t, rfl, ht.close⟩
  | ok v =>
    obtain ⟨u, hf, hu⟩ := Sink.exists_flush ht.room
    rw [ht.flushFault, hflush] at hf
    refine ⟨u, by rw [Sink.finish, hf], ?_⟩
    rw [hu.close, List.append_nil, ht.close]

lemma finish_of_direct {s : Sink} (h : s.Direct) (r : Except Failure Unit) :
    Sink.finish (s, r) =
      match r, s.flushFault with
      | .ok (), some f => (s, .error (.io stdoutName f))
      | r, _ => (s, r) := by
  cases r with
  | error e => rfl
  | ok u =>
    rw [Sink.finish, h.flush_eq]
    cases s.flushFault <;> rfl

variable (a : Arguments) (inputs : Inputs) {s t : Sink}

lemma ending_run_of_room (hd : s.Direct) (h : s.deliver (script a inputs).output = (t, none)) :
    (run a inputs s).ending = Sink.finish (t, (script a inputs).result) := by
  rw [ending_run, hd.perform_eq, h]

lemma ending_run_of_fault {f : Fault} (hd : s.Direct)
    (h : s.deliver (script a inputs).output = (t, some f)) :
    (run a inputs s).ending = (t, .error (.io stdoutName f)) := by
  rw [ending_run, hd.perform_eq, h]
  rfl

lemma ending_run_working :
    (run a inputs {}).ending =
      ({ taken := (script a inputs).output }, (script a inputs).result) := by
  have hroom : Sink.deliver {} (script a inputs).output =
      ({ taken := (script a inputs).output }, none) := rfl
  rw [ending_run_of_room a inputs ⟨rfl, rfl⟩ hroom, finish_of_direct ⟨rfl, rfl⟩]
  cases (script a inputs).result <;> rfl

lemma ending_run_limited (n : Nat) (f : Fault) :
    ∃ t, t.taken = (script a inputs).output.take n ∧
      (run a inputs { room := some n, fault := f }).ending =
        (t, if (script a inputs).output.length ≤ n then (script a inputs).result
          else .error (.io stdoutName f)) := by
  generalize hw : (script a inputs).output = out
  by_cases hn : out.length ≤ n
  · have hroom : Sink.deliver { room := some n, fault := f } (script a inputs).output =
        ({ taken := out, room := some (n - out.length), fault := f }, none) := by
      rw [hw]
      simp [Sink.deliver, hn]
    refine ⟨{ taken := out, room := some (n - out.length), fault := f },
      (List.take_of_length_le hn).symm, ?_⟩
    rw [ending_run_of_room a inputs ⟨rfl, rfl⟩ hroom, finish_of_direct ⟨rfl, rfl⟩, if_pos hn]
    cases (script a inputs).result <;> rfl
  · have hfault : Sink.deliver { room := some n, fault := f } (script a inputs).output =
        ({ taken := out.take n, room := some 0, fault := f }, some f) := by
      rw [hw]
      simp [Sink.deliver, hn]
    exact ⟨_, rfl, by rw [ending_run_of_fault a inputs ⟨rfl, rfl⟩ hfault, if_neg hn]⟩

lemma ending_run_unflushed (f : Fault) :
    (run a inputs { flushFault := some f }).ending =
      ({ taken := (script a inputs).output, flushFault := some f },
        match (script a inputs).result with
        | .ok () => .error (.io stdoutName f)
        | .error e => .error e) := by
  have hroom : Sink.deliver { flushFault := some f } (script a inputs).output =
      ({ taken := (script a inputs).output, flushFault := some f }, none) := rfl
  rw [ending_run_of_room a inputs ⟨rfl, rfl⟩ hroom, finish_of_direct ⟨rfl, rfl⟩]
  cases (script a inputs).result <;> rfl

/-- A sink that fails after `n` bytes takes the first `n` bytes of the output, and its fault is
reported if there are more. A sink that fails when it is flushed takes them all, and its fault is
reported if nothing else failed. -/
theorem run_failing_sink (a : Arguments) (inputs : Inputs) (f : Fault) :
    (∀ n : Nat,
      (run a inputs { room := some n, fault := f }).sink.taken =
          (run a inputs {}).sink.taken.take n ∧
        (run a inputs { room := some n, fault := f }).result =
          if (run a inputs {}).sink.taken.length ≤ n then (run a inputs {}).result
          else .error (.io stdoutName f)) ∧
    (run a inputs { flushFault := some f }).sink.taken = (run a inputs {}).sink.taken ∧
    (run a inputs { flushFault := some f }).result =
      match (run a inputs {}).result with
      | .ok () => .error (.io stdoutName f)
      | .error e => .error e := by
  obtain ⟨hsink, hresult⟩ := Outcome.eq_of_ending (ending_run_working a inputs)
  obtain ⟨huSink, huResult⟩ := Outcome.eq_of_ending (ending_run_unflushed a inputs f)
  rw [hsink, hresult]
  refine ⟨fun n => ?_, by rw [huSink], huResult⟩
  obtain ⟨t, ht, hrun⟩ := ending_run_limited a inputs n f
  obtain ⟨hcSink, hcResult⟩ := Outcome.eq_of_ending hrun
  exact ⟨by rw [hcSink, ht], hcResult⟩

end Search

end TemplateGrep
