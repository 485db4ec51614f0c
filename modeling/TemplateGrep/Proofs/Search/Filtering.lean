import Mathlib
import TemplateGrep.Proofs.Stream.Script

namespace TemplateGrep

namespace Bytes

def lines (bs : Bytes) : List Bytes :=
  if (bs.splitOn newline).getLast? = some [] then (bs.splitOn newline).dropLast
  else bs.splitOn newline

def chomp (line : Bytes) : Bytes := if [carriageReturn] <:+ line then line.dropLast else line

lemma lines_append {as : Bytes} (h : as = [] ∨ as.getLast? = some newline) (bs : Bytes) :
    lines (as ++ bs) = lines as ++ lines bs := by
  rcases h with rfl | h
  · simp [lines]
  · obtain ⟨front, rfl⟩ := List.getLast?_eq_some_iff.mp h
    have hne : bs.splitOn newline ≠ [] := List.splitOn_ne_nil _ _
    have hfront : lines (front ++ [newline]) = front.splitOn newline := by
      simp [lines, List.splitOn_append_cons_self]
    have hlast : ∀ ps : List Bytes, (ps ++ bs.splitOn newline).getLast? =
        (bs.splitOn newline).getLast? := fun ps =>
      List.getLast?_append_of_ne_nil ps hne
    rw [hfront, List.append_assoc, List.singleton_append, lines, lines,
      List.splitOn_append_cons_self, hlast]
    split
    · rw [List.dropLast_append_of_ne_nil hne]
    · rfl

end Bytes

open Bytes (newline carriageReturn)

lemma dropEnd_append (b : UInt8) (line : Bytes) : trimEnding.dropEnd b (line ++ [b]) = line := by
  simp [trimEnding.dropEnd]

lemma dropEnd_of_not_mem {b : UInt8} {line : Bytes} (h : b ∉ line) :
    trimEnding.dropEnd b line = line := by
  rw [trimEnding.dropEnd, if_neg fun hlast => h (List.mem_of_getLast? hlast)]

lemma dropEnd_carriageReturn (line : Bytes) :
    trimEnding.dropEnd carriageReturn line = Bytes.chomp line := by
  have hiff : line.getLast? = some carriageReturn ↔ [carriageReturn] <:+ line := by
    rw [List.getLast?_eq_some_iff]
    exact ⟨fun ⟨front, h⟩ => ⟨front, h.symm⟩, fun ⟨front, h⟩ => ⟨front, h.symm⟩⟩
  simp only [trimEnding.dropEnd, Bytes.chomp, hiff]

lemma trimEnding_append_newline (line : Bytes) :
    trimEnding (line ++ [newline]) = Bytes.chomp line := by
  rw [trimEnding, dropEnd_append, dropEnd_carriageReturn]

lemma trimEnding_of_not_mem {line : Bytes} (h : newline ∉ line) :
    trimEnding line = Bytes.chomp line := by
  rw [trimEnding, dropEnd_of_not_mem h, dropEnd_carriageReturn]

namespace Source

lemma cut_append (carry as bs : Bytes) :
    cut carry (as ++ bs) =
      ((cut carry as).1 ++ (cut (cut carry as).2 bs).1, (cut (cut carry as).2 bs).2) := by
  induction as generalizing carry with
  | nil => rfl
  | cons b as ih =>
    rw [List.cons_append, cut, cut]
    split
    · rw [ih]
      rfl
    · exact ih _

lemma linesFrom_eq (fault : Option Fault) (carry : Bytes) (chunks : List Bytes) :
    linesFrom fault carry chunks =
      (cut carry chunks.flatten).1 ++ linesFrom fault (cut carry chunks.flatten).2 [] := by
  induction chunks generalizing carry with
  | nil => rfl
  | cons chunk chunks ih =>
    have hcons : linesFrom fault carry (chunk :: chunks) =
        (cut carry chunk).1 ++ linesFrom fault (cut carry chunk).2 chunks := rfl
    rw [hcons, ih, List.flatten_cons, cut_append, List.append_assoc]

lemma splitOn_eq_cut {carry : Bytes} (h : newline ∉ carry) (bs : Bytes) :
    ∃ lines : List Bytes, (cut carry bs).1 = lines.map (· ++ [newline]) ∧
      (carry.reverse ++ bs).splitOn newline = lines ++ [(cut carry bs).2.reverse] ∧
      newline ∉ (cut carry bs).2 := by
  induction bs generalizing carry with
  | nil =>
    have hr : newline ∉ carry.reverse := by simpa using h
    refine ⟨[], rfl, ?_, h⟩
    rw [List.append_nil, List.splitOn_eq_singleton hr]
    rfl
  | cons b bs ih =>
    have hr : newline ∉ carry.reverse := by simpa using h
    rw [cut]
    split
    case isTrue hb =>
      obtain ⟨lines, hcut, hsplit, hmem⟩ := ih List.not_mem_nil
      refine ⟨carry.reverse :: lines, ?_, ?_, hmem⟩
      · simp [hcut, hb]
      · rw [List.reverse_nil, List.nil_append] at hsplit
        rw [hb, List.splitOn_append_cons_self_of_not_mem hr, hsplit, List.cons_append]
    case isFalse hb =>
      have hcarry : newline ∉ b :: carry := by
        rw [List.mem_cons, not_or]
        exact ⟨fun he => hb he.symm, h⟩
      obtain ⟨lines, hcut, hsplit, hmem⟩ := ih hcarry
      refine ⟨lines, hcut, ?_, hmem⟩
      rw [List.reverse_cons, List.append_assoc] at hsplit
      exact hsplit

lemma map_trimEnding_lines (chunks : List Bytes) :
    (Source.lines ⟨chunks, none⟩).map trimEnding =
      (Bytes.lines chunks.flatten).map Bytes.chomp := by
  have hlines : Source.lines ⟨chunks, none⟩ = linesFrom none [] chunks := rfl
  obtain ⟨finished, hcut, hsplit, hmem⟩ :=
    splitOn_eq_cut List.not_mem_nil chunks.flatten
  have htrim : ∀ lines : List Bytes,
      (lines.map (· ++ [newline])).map trimEnding = lines.map Bytes.chomp := by
    intro lines
    rw [List.map_map]
    exact List.map_congr_left fun line _ => trimEnding_append_newline line
  rw [List.reverse_nil, List.nil_append] at hsplit
  rw [hlines, linesFrom_eq, hcut, List.map_append, htrim, Bytes.lines, hsplit]
  generalize (cut [] chunks.flatten).2 = carry at hmem ⊢
  have hrev : newline ∉ carry.reverse := by simpa using hmem
  by_cases hc : carry = []
  · simp [linesFrom, hc]
  · simp [linesFrom, hc, trimEnding_of_not_mem hrev]

end Source

namespace Matcher

def matching (m : Matcher) (lines : List Bytes) : List Bytes :=
  (lines.map trimEnding).filter m.isMatch

def filterScript (m : Matcher) (name : String) (source : Source) : Script Nat where
  writes := (m.matching source.lines).flatMap fun line => [line, [newline]]
  result := match source.fault with
    | some f => .error (.io name f)
    | none => .ok (m.matching source.lines).length

def selected (m : Matcher) (text : Bytes) : List Bytes :=
  ((Bytes.lines text).map Bytes.chomp).filter m.isMatch

def output (m : Matcher) (text : Bytes) : Bytes := (m.selected text).flatMap (· ++ [newline])

variable {m : Matcher}

lemma matching_cons (line : Bytes) (lines : List Bytes) :
    m.matching (line :: lines) =
      if m.isMatch (trimEnding line) then trimEnding line :: m.matching lines
      else m.matching lines := by
  simp [matching, List.filter_cons]

lemma copyLines_eq (written : Nat) (lines : List Bytes) (s : Sink) :
    m.copyLines written lines s =
      match Sink.writeAll ((m.matching lines).flatMap fun line => [line, [newline]]) s with
      | (s, some f) => (s, .error f)
      | (s, none) => (s, .ok (written + (m.matching lines).length)) := by
  induction lines generalizing written s with
  | nil => rfl
  | cons line lines ih =>
    rw [copyLines, matching_cons]
    split
    · rw [List.flatMap_cons, Sink.writeAll_append, Sink.writeLine_eq_writeAll]
      rcases Sink.writeAll [trimEnding line, [newline]] s with ⟨t, _ | f⟩
      · have hcount : written + (trimEnding line :: m.matching lines).length =
            written + 1 + (m.matching lines).length := by
          rw [List.length_cons]
          omega
        rw [hcount]
        exact ih (written + 1) t
      · rfl
    · exact ih written s

lemma filter_eq_perform (name : String) (source : Source) (s : Sink) :
    m.filter name source s = s.perform (m.filterScript name source) := by
  rw [filter, copyLines_eq, Sink.perform, filterScript]
  rcases Sink.writeAll _ s with ⟨t, _ | f⟩
  · rcases source.fault with _ | f
    · simp only [Nat.zero_add]
    · rfl
  · rfl

lemma flatten_lineWrites (lines : List Bytes) :
    (lines.flatMap fun line => [line, [newline]]).flatten = lines.flatMap (· ++ [newline]) := by
  induction lines with
  | nil => rfl
  | cons line lines ih => simp [ih]

lemma matching_lines (chunks : List Bytes) :
    m.matching (Source.lines ⟨chunks, none⟩) = m.selected chunks.flatten := by
  rw [matching, Source.map_trimEnding_lines, selected]

lemma output_filterScript (name : String) (chunks : List Bytes) :
    (m.filterScript name ⟨chunks, none⟩).output = m.output chunks.flatten := by
  rw [Script.output, filterScript, flatten_lineWrites, matching_lines, output]

lemma result_filterScript (name : String) (chunks : List Bytes) :
    (m.filterScript name ⟨chunks, none⟩).result = .ok (m.selected chunks.flatten).length := by
  rw [filterScript, matching_lines]

lemma filterScript_congr {chunks others : List Bytes} (h : chunks.flatten = others.flatten)
    (name : String) : m.filterScript name ⟨chunks, none⟩ = m.filterScript name ⟨others, none⟩ := by
  simp only [filterScript, matching_lines, h]

lemma selected_append {as : Bytes} (h : as = [] ∨ as.getLast? = some newline) (bs : Bytes) :
    m.selected (as ++ bs) = m.selected as ++ m.selected bs := by
  rw [selected, Bytes.lines_append h, List.map_append, List.filter_append]
  rfl

lemma output_append {as : Bytes} (h : as = [] ∨ as.getLast? = some newline) (bs : Bytes) :
    m.output (as ++ bs) = m.output as ++ m.output bs := by
  rw [output, selected_append h, List.flatMap_append]
  rfl

def Copies (m : Matcher) (name : String) (source : Source) (s : Sink) (lines : List Bytes) : Prop :=
  ∃ t, m.filter name source s = (t, .ok lines.length) ∧
    t.close = s.close ++ lines.flatMap (· ++ [newline])

lemma exists_filter_eq (m : Matcher) {s : Sink} (hs : s.room = none) (name : String) (chunks : List Bytes) :
    ∃ t, m.filter name ⟨chunks, none⟩ s = (t, .ok (m.selected chunks.flatten).length) ∧
      t.close = s.close ++ m.output chunks.flatten := by
  obtain ⟨t, ht, htakes⟩ := Sink.exists_perform hs (m.filterScript name ⟨chunks, none⟩)
  refine ⟨t, ?_, ?_⟩
  · rw [filter_eq_perform, ht, result_filterScript]
  · rw [htakes.close, output_filterScript]

/-- A filter in front of a working sink puts out the matching lines of the whole input and counts
them. -/
theorem filter_eq_output (m : Matcher) (name : String) (s : Sink) (hs : s.room = none) :
    (∀ chunks : List Bytes, ∃ t,
      m.filter name ⟨chunks, none⟩ s = (t, .ok (m.selected chunks.flatten).length) ∧
        t.close = s.close ++ m.output chunks.flatten) ∧
    (∀ chunks others : List Bytes, chunks.flatten = others.flatten →
      m.filter name ⟨chunks, none⟩ s = m.filter name ⟨others, none⟩ s) ∧
    ∀ first second joined : List Bytes,
      first.flatten = [] ∨ first.flatten.getLast? = some newline →
      joined.flatten = first.flatten ++ second.flatten →
      (m.filter name ⟨joined, none⟩ {}).1.close =
        (m.filter name ⟨first, none⟩ {}).1.close ++ (m.filter name ⟨second, none⟩ {}).1.close := by
  refine ⟨exists_filter_eq m hs name, fun chunks others h => ?_, fun first second joined h hj => ?_⟩
  · rw [filter_eq_perform, filter_eq_perform, filterScript_congr h]
  · have hclose : ∀ chunks : List Bytes,
        (m.filter name ⟨chunks, none⟩ {}).1.close = m.output chunks.flatten := by
      intro chunks
      obtain ⟨t, ht, hc⟩ := exists_filter_eq m (s := {}) rfl name chunks
      rw [ht, hc]
      rfl
    rw [hclose, hclose, hclose, hj, output_append h]

theorem filter_eq_output_chunks :
    ({} : Sink).room = none ∧
      ∃ t, filter ⟨[⟨"a", .literal [0x61]⟩]⟩ stdinName
          ⟨[[0x61, 0x0D], [0x0A, 0x0A], [0x62, 0x61, 0x0D, 0x0D]], none⟩ {} = (t, .ok 2) ∧
        t.close = [0x61, 0x0A, 0x62, 0x61, 0x0D, 0x0A] := by
  have hs : ({} : Sink).room = none := rfl
  have hselected : selected ⟨[⟨"a", .literal [0x61]⟩]⟩
      [0x61, 0x0D, 0x0A, 0x0A, 0x62, 0x61, 0x0D, 0x0D] = [[0x61], [0x62, 0x61, 0x0D]] := by
    decide +kernel
  obtain ⟨t, ht, hc⟩ := (filter_eq_output ⟨[⟨"a", .literal [0x61]⟩]⟩ stdinName {} hs).1
    [[0x61, 0x0D], [0x0A, 0x0A], [0x62, 0x61, 0x0D, 0x0D]]
  refine ⟨hs, t, ?_, ?_⟩
  · exact ht.trans (by simp [hselected])
  · exact hc.trans (by simp [output, hselected, Sink.close, Sink.empty, Sink.deliver, newline])

end Matcher

end TemplateGrep
