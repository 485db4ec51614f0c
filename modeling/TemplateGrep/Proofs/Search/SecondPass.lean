import Mathlib
import TemplateGrep.Proofs.Search.Filtering

namespace TemplateGrep

namespace Bytes

lemma not_mem_of_mem_splitOn {bs piece : Bytes} {b : UInt8} (h : piece ∈ bs.splitOn b) :
    b ∉ piece := by
  induction bs generalizing piece with
  | nil => simp_all
  | cons c bs ih =>
    rw [List.splitOn_cons_eq_if_modifyHead] at h
    split at h
    case isTrue =>
      rcases List.mem_cons.mp h with rfl | h
      · exact List.not_mem_nil
      · exact ih h
    case isFalse hc =>
      obtain ⟨first, rest, hsplit⟩ := List.exists_cons_of_ne_nil (List.splitOn_ne_nil b bs)
      rw [hsplit] at h ih
      rcases List.mem_cons.mp h with rfl | h
      · have hfirst : b ∉ first := ih List.mem_cons_self
        have hne : b ≠ c := fun he => hc (beq_iff_eq.mpr he.symm)
        exact fun hmem => (List.mem_cons.mp hmem).elim hne hfirst
      · exact ih (List.mem_cons_of_mem _ h)

lemma newline_not_mem_of_mem_lines {bs line : Bytes} (h : line ∈ lines bs) : newline ∉ line := by
  rw [lines] at h
  split at h
  · exact not_mem_of_mem_splitOn (List.mem_of_mem_dropLast h)
  · exact not_mem_of_mem_splitOn h

lemma lines_singleton {line : Bytes} (h : newline ∉ line) : lines (line ++ [newline]) = [line] := by
  simp [lines, List.splitOn_append_cons_self_of_not_mem h]

lemma lines_flatMap {written : List Bytes} (h : ∀ line ∈ written, newline ∉ line) :
    lines (written.flatMap (· ++ [newline])) = written := by
  induction written with
  | nil => simp [lines]
  | cons line written ih =>
    obtain ⟨hline, hwritten⟩ := List.forall_mem_cons.mp h
    have hends : (line ++ [newline]).getLast? = some newline := List.getLast?_concat ..
    rw [List.flatMap_cons, lines_append (.inr hends), lines_singleton hline, ih hwritten]
    rfl

lemma chomp_eq_self_iff {line : Bytes} : chomp line = line ↔ ¬ [carriageReturn] <:+ line := by
  rw [chomp]
  split
  case isTrue h =>
    obtain ⟨front, rfl⟩ := h
    simp
  case isFalse h => simp [h]

lemma map_chomp_eq_self_iff {written : List Bytes} :
    written.map chomp = written ↔ ∀ line ∈ written, ¬ [carriageReturn] <:+ line := by
  rw [← forall₂_congr fun line _ => chomp_eq_self_iff]
  conv_lhs => rhs; rw [← List.map_id written]
  exact List.map_inj_left

lemma chomp_prefix (line : Bytes) : chomp line <+: line := by
  rw [chomp]
  split
  · exact List.dropLast_prefix line
  · exact List.prefix_refl line

end Bytes

open Bytes (newline carriageReturn)

namespace Matcher

variable {m : Matcher}

lemma newline_not_mem_of_mem_selected {text line : Bytes} (h : line ∈ m.selected text) :
    newline ∉ line := by
  obtain ⟨old, hold, rfl⟩ := List.mem_map.mp (List.mem_of_mem_filter h)
  exact fun hmem => Bytes.newline_not_mem_of_mem_lines hold ((Bytes.chomp_prefix old).subset hmem)

lemma selected_output (text : Bytes) :
    m.selected (m.output text) = ((m.selected text).map Bytes.chomp).filter m.isMatch := by
  have hlines : Bytes.lines (m.output text) = m.selected text :=
    Bytes.lines_flatMap fun _ => newline_not_mem_of_mem_selected
  rw [selected, hlines]

lemma selected_output_eq_iff (text : Bytes) :
    m.selected (m.output text) = m.selected text ↔
      ∀ line ∈ m.selected text, ¬ [carriageReturn] <:+ line := by
  rw [selected_output, ← Bytes.map_chomp_eq_self_iff]
  constructor
  · intro h
    -- as many lines as before, so none was dropped
    have hlength : (((m.selected text).map Bytes.chomp).filter m.isMatch).length =
        ((m.selected text).map Bytes.chomp).length := by
      rw [h, List.length_map]
    have hall := List.filter_eq_self.mpr (List.length_filter_eq_length_iff.mp hlength)
    exact hall.symm.trans h
  · intro h
    rw [h]
    exact List.filter_eq_self.mpr fun _ => List.of_mem_filter

lemma Copies.unique {name : String} {source : Source} {s : Sink} {lines others : List Bytes}
    (h : m.Copies name source s lines) (h' : m.Copies name source s others)
    (hlines : ∀ line ∈ lines, newline ∉ line) (hothers : ∀ line ∈ others, newline ∉ line) :
    lines = others := by
  obtain ⟨t, ht, hclose⟩ := h
  obtain ⟨u, hu, hclose'⟩ := h'
  obtain rfl : t = u := congrArg Prod.fst (ht.symm.trans hu)
  have hout := List.append_cancel_left (hclose.symm.trans hclose')
  rw [← Bytes.lines_flatMap hlines, hout, Bytes.lines_flatMap hothers]

/-- A filter that reads what it put out drops one more carriage return of each line and keeps the lines
that still match. It puts out the same as before, and counts the same, if and only if no line was
written with a carriage return at its end. -/
theorem filter_twice_eq_iff (m : Matcher) (name name' : String) {s s' : Sink} (hs : s.room = none)
    (hs' : s'.room = none) (chunks : List Bytes) :
    m.Copies name ⟨chunks, none⟩ s (m.selected chunks.flatten) ∧
      ∀ again : List Bytes, again.flatten = (m.selected chunks.flatten).flatMap (· ++ [newline]) →
        m.Copies name' ⟨again, none⟩ s'
            (((m.selected chunks.flatten).map Bytes.chomp).filter m.isMatch) ∧
          (m.Copies name' ⟨again, none⟩ s' (m.selected chunks.flatten) ↔
            ∀ line ∈ m.selected chunks.flatten, ¬ [carriageReturn] <:+ line) := by
  refine ⟨exists_filter_eq m hs name chunks, fun again hagain => ?_⟩
  have hsecond : m.Copies name' ⟨again, none⟩ s' (m.selected again.flatten) :=
    exists_filter_eq m hs' name' again
  have houtput : again.flatten = m.output chunks.flatten := hagain
  rw [houtput] at hsecond
  rw [← selected_output_eq_iff, ← selected_output]
  refine ⟨hsecond, fun h => ?_, fun h => ?_⟩
  · exact hsecond.unique h (fun _ => newline_not_mem_of_mem_selected)
      (fun _ => newline_not_mem_of_mem_selected)
  · rwa [h] at hsecond

theorem filter_twice_eq_iff_return :
    ({} : Sink).room = none ∧
      (∀ line ∈ selected ⟨[⟨"a", .literal [0x61]⟩]⟩
        [0x0D, 0x61, 0x0D, 0x0A, 0x62, 0x0A, 0x61, 0x0D, 0x61], ¬ [carriageReturn] <:+ line) ∧
      Copies ⟨[⟨"a", .literal [0x61]⟩]⟩ stdinName
        ⟨[[0x0D, 0x61, 0x0D], [0x0A, 0x62, 0x0A, 0x61, 0x0D, 0x61]], none⟩ {}
        [[0x0D, 0x61], [0x61, 0x0D, 0x61]] ∧
      Copies ⟨[⟨"a", .literal [0x61]⟩]⟩ stdinName
        ⟨[[0x0D, 0x61, 0x0A, 0x61, 0x0D, 0x61, 0x0A]], none⟩ {}
        [[0x0D, 0x61], [0x61, 0x0D, 0x61]] := by
  have hs : ({} : Sink).room = none := rfl
  have hselected : selected ⟨[⟨"a", .literal [0x61]⟩]⟩
      [0x0D, 0x61, 0x0D, 0x0A, 0x62, 0x0A, 0x61, 0x0D, 0x61] =
        [[0x0D, 0x61], [0x61, 0x0D, 0x61]] := by
    decide +kernel
  have hends : ∀ line ∈ selected ⟨[⟨"a", .literal [0x61]⟩]⟩
      [0x0D, 0x61, 0x0D, 0x0A, 0x62, 0x0A, 0x61, 0x0D, 0x61], ¬ [carriageReturn] <:+ line := by
    rw [hselected]
    decide
  obtain ⟨hfirst, hsecond⟩ := filter_twice_eq_iff ⟨[⟨"a", .literal [0x61]⟩]⟩ stdinName stdinName hs hs
    [[0x0D, 0x61, 0x0D], [0x0A, 0x62, 0x0A, 0x61, 0x0D, 0x61]]
  have hagain := (hsecond [[0x0D, 0x61, 0x0A, 0x61, 0x0D, 0x61, 0x0A]]
    (by simp [hselected, newline])).2.mpr hends
  simp only [List.flatten_cons, List.flatten_nil, List.append_nil, List.cons_append, List.nil_append,
    hselected] at hfirst hagain
  exact ⟨hs, hends, hfirst, hagain⟩

theorem filter_twice_loses_return :
    (compile .builtin {} ["a"] = .ok ⟨[⟨"a", .literal [0x61]⟩]⟩ ∧
      filter ⟨[⟨"a", .literal [0x61]⟩]⟩ stdinName (.ofBytes [0x61, 0x0D, 0x0D, 0x0A]) {} =
        ({ taken := [0x61, 0x0D, 0x0A] }, .ok 1) ∧
      filter ⟨[⟨"a", .literal [0x61]⟩]⟩ stdinName (.ofBytes [0x61, 0x0D, 0x0A]) {} =
        ({ taken := [0x61, 0x0A] }, .ok 1)) ∧
    (compile .builtin {} ["\r"] = .ok ⟨[⟨"\r", .literal [0x0D]⟩]⟩ ∧
      filter ⟨[⟨"\r", .literal [0x0D]⟩]⟩ stdinName (.ofBytes [0x0D, 0x0D, 0x0A]) {} =
        ({ taken := [0x0D, 0x0A] }, .ok 1) ∧
      filter ⟨[⟨"\r", .literal [0x0D]⟩]⟩ stdinName (.ofBytes [0x0D, 0x0A]) {} =
        ({ taken := [] }, .ok 0)) := by
  decide +kernel

end Matcher

end TemplateGrep
