import Mathlib
import TemplateGrep.Proofs.Search.Filtering

namespace TemplateGrep

namespace Bytes

def finished (bs : Bytes) : Bytes := bs.rdropWhile (· ≠ newline)

lemma getLast?_finished (bs : Bytes) : finished bs = [] ∨ (finished bs).getLast? = some newline := by
  by_cases h : finished bs = []
  · exact .inl h
  · have hlast := List.rdropWhile_last_not _ bs h
    rw [List.getLast?_eq_some_getLast h]
    exact .inr (by simpa [finished] using hlast)

lemma exists_finished_append (bs : Bytes) : ∃ rest, finished bs ++ rest = bs ∧ newline ∉ rest := by
  refine ⟨bs.rtakeWhile (· ≠ newline), List.rdropWhile_append_rtakeWhile, fun h => ?_⟩
  simpa using List.mem_rtakeWhile_imp h

end Bytes

open Bytes (newline finished)

namespace Source

lemma cut_of_not_mem (carry : Bytes) {bs : Bytes} (h : newline ∉ bs) :
    cut carry bs = ([], bs.reverse ++ carry) := by
  induction bs generalizing carry with
  | nil => rfl
  | cons b bs ih =>
    obtain ⟨hb, hbs⟩ := not_or.mp (mt List.mem_cons.mpr h)
    rw [cut, if_neg (Ne.symm hb), ih _ hbs, List.reverse_cons, List.append_assoc]
    rfl

lemma cut_finished (bs : Bytes) : (cut [] (finished bs)).2 = [] := by
  rcases Bytes.getLast?_finished bs with h | h
  · rw [h]
    rfl
  · obtain ⟨front, hfront⟩ := List.getLast?_eq_some_iff.mp h
    rw [hfront, cut_append]
    rfl

lemma lines_of_fault {chunks whole : List Bytes} (f : Fault)
    (h : whole.flatten = finished chunks.flatten) :
    lines ⟨chunks, some f⟩ = lines ⟨whole, none⟩ := by
  have hfails : lines ⟨chunks, some f⟩ = (cut [] chunks.flatten).1 :=
    (linesFrom_eq _ _ _).trans (List.append_nil _)
  have hends : lines ⟨whole, none⟩ = (cut [] (finished chunks.flatten)).1 := by
    refine (linesFrom_eq _ _ _).trans ?_
    rw [h, cut_finished]
    exact List.append_nil _
  obtain ⟨rest, hsplit, hrest⟩ := Bytes.exists_finished_append chunks.flatten
  rw [hfails, hends, ← hsplit, cut_append, cut_of_not_mem _ hrest, hsplit]
  exact List.append_nil _

end Source

namespace Matcher

lemma exists_filter_of_lines (m : Matcher) {s : Sink} (hs : s.room = none) (name : String)
    (lines : List Bytes) :
    ∃ t, t.close = s.close ++ (m.matching lines).flatMap (· ++ [newline]) ∧
      ∀ source : Source, source.lines = lines →
        m.filter name source s = (t, (m.filterScript name source).result) := by
  obtain ⟨t, hw, ht⟩ :=
    Sink.exists_writeAll hs ((m.matching lines).flatMap fun line => [line, [newline]])
  refine ⟨t, by rw [ht.close, flatten_lineWrites], fun source hsource => ?_⟩
  have hwrites : (m.filterScript name source).writes =
      (m.matching lines).flatMap fun line => [line, [newline]] := by
    rw [filterScript, hsource]
  rw [filter_eq_perform, Sink.perform, hwrites, hw]

/-- When reading fails behind the first `n` bytes of an input, the sink is left as by a filter of the
lines that are finished there, and nothing else is put out. -/
theorem filter_readFault (m : Matcher) (name : String) (f : Fault) {s : Sink} (hs : s.room = none)
    (input : Bytes) (n : Nat) {chunks : List Bytes} (hchunks : chunks.flatten = input.take n) :
    ∃ t, m.filter name ⟨chunks, some f⟩ s = (t, .error (.io name f)) ∧
      t.close = s.close ++ m.output (finished (input.take n)) ∧
      ∀ whole : List Bytes, whole.flatten = finished (input.take n) →
        m.filter name ⟨whole, none⟩ s = (t, .ok (m.selected (finished (input.take n))).length) := by
  have hlines : ∀ whole : List Bytes, whole.flatten = finished (input.take n) →
      Source.lines ⟨chunks, some f⟩ = Source.lines ⟨whole, none⟩ := fun whole hwhole =>
    Source.lines_of_fault f (hchunks ▸ hwhole)
  have hmatching : m.matching (Source.lines ⟨chunks, some f⟩) =
      m.selected (finished (input.take n)) := by
    have hone : [finished (input.take n)].flatten = finished (input.take n) :=
      List.flatten_singleton
    rw [hlines _ hone, matching_lines, hone]
  obtain ⟨t, hclose, hfilter⟩ :=
    exists_filter_of_lines m hs name (Source.lines ⟨chunks, some f⟩)
  refine ⟨t, hfilter _ rfl, ?_, fun whole hwhole => ?_⟩
  · rw [hclose, hmatching, output]
  · rw [hfilter _ (hlines whole hwhole).symm, result_filterScript, hwhole]

theorem filter_readFault_return :
    ({} : Sink).room = none ∧
      List.flatten [[0x61, 0x0A, 0x62], [0x0A], [0x61, 0x0D]] =
        List.take 6 ([0x61, 0x0A, 0x62, 0x0A, 0x61, 0x0D, 0x0A] : Bytes) ∧
      ∃ t, filter ⟨[⟨"a", .literal [0x61]⟩]⟩ "data.txt"
          ⟨[[0x61, 0x0A, 0x62], [0x0A], [0x61, 0x0D]], some ⟨"boom", false⟩⟩ {} =
            (t, .error (.io "data.txt" ⟨"boom", false⟩)) ∧
        t.close = [0x61, 0x0A] := by
  have hs : ({} : Sink).room = none := rfl
  have hchunks : List.flatten [[0x61, 0x0A, 0x62], [0x0A], [0x61, 0x0D]] =
      List.take 6 ([0x61, 0x0A, 0x62, 0x0A, 0x61, 0x0D, 0x0A] : Bytes) := rfl
  have houtput : output ⟨[⟨"a", .literal [0x61]⟩]⟩
      (finished (List.take 6 [0x61, 0x0A, 0x62, 0x0A, 0x61, 0x0D, 0x0A])) = [0x61, 0x0A] := by
    decide +kernel
  obtain ⟨t, ht, hclose, -⟩ := filter_readFault ⟨[⟨"a", .literal [0x61]⟩]⟩ "data.txt"
    ⟨"boom", false⟩ hs [0x61, 0x0A, 0x62, 0x0A, 0x61, 0x0D, 0x0A] 6 hchunks
  exact ⟨hs, hchunks, t, ht, hclose.trans (by rw [houtput]; rfl)⟩

end Matcher

end TemplateGrep
