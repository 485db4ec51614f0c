import Mathlib
import TemplateGrep.Proofs.Stream.Script

namespace TemplateGrep.Sink

structure Withholds (s : Sink) (bs : Bytes) (t : Sink) : Prop where
  room : t.room = some 0
  held : t.held = s.held ++ bs
  fault : t.fault = s.fault
  flushFault : t.flushFault = s.flushFault

namespace Withholds

variable {s t u : Sink} {as bs : Bytes}

lemma refl (h : s.room = some 0) : s.Withholds [] s := ⟨h, by simp, rfl, rfl⟩

lemma trans (h : s.Withholds as t) (h' : t.Withholds bs u) : s.Withholds (as ++ bs) u where
  room := h'.room
  held := by rw [h'.held, h.held, List.append_assoc]
  fault := h'.fault.trans h.fault
  flushFault := h'.flushFault.trans h.flushFault

end Withholds

variable {s : Sink}

lemma deliver_blocked (h : s.room = some 0) {bs : Bytes} (hne : bs ≠ []) :
    ∃ t, s.deliver bs = (t, some s.fault) := by
  have hlen : ¬ bs.length ≤ 0 := by simpa using hne
  rw [deliver, h]
  dsimp only
  rw [if_neg hlen]
  exact ⟨_, rfl⟩

lemma empty_of_held_nil (h : s.held = []) : s.empty = (s, none) := by
  have hs : { s with held := [] } = s := by rw [← h]
  rw [empty, hs, h, deliver_nil]

lemma empty_blocked (h : s.room = some 0) (hne : s.held ≠ []) :
    ∃ t, s.empty = (t, some s.fault) :=
  deliver_blocked (s := { s with held := [] }) h hne

lemma place_blocked (h : s.room = some 0) (bs : Bytes) :
    (∃ t, s.place bs = (t, none) ∧ s.Withholds bs t) ∨
      (bs ≠ [] ∧ ∃ t, s.place bs = (t, some s.fault)) := by
  rw [place]
  split
  · rcases eq_or_ne bs [] with rfl | hne
    · exact .inl ⟨s, deliver_nil s, .refl h⟩
    · exact .inr ⟨hne, deliver_blocked h hne⟩
  · exact .inl ⟨_, rfl, h, rfl, rfl, rfl⟩

lemma write_blocked (h : s.room = some 0) (bs : Bytes) :
    (∃ t, s.write bs = (t, none) ∧ s.Withholds bs t) ∨
      (s.held ++ bs ≠ [] ∧ ∃ t, s.write bs = (t, some s.fault)) := by
  have hplace := (place_blocked h bs).imp_right
    (And.imp_left fun hne => List.append_ne_nil_of_right_ne_nil s.held hne)
  rw [write]
  split
  · exact hplace
  · rcases eq_or_ne s.held [] with hheld | hheld
    · rw [empty_of_held_nil hheld]
      exact hplace
    · obtain ⟨t, ht⟩ := empty_blocked h hheld
      exact .inr ⟨by simp [hheld], t, by rw [ht]⟩

lemma writeAll_blocked (h : s.room = some 0) (ws : List Bytes) :
    (∃ t, writeAll ws s = (t, none) ∧ s.Withholds ws.flatten t) ∨
      (s.held ++ ws.flatten ≠ [] ∧ ∃ t, writeAll ws s = (t, some s.fault)) := by
  induction ws generalizing s with
  | nil => exact .inl ⟨s, rfl, .refl h⟩
  | cons bs ws ih =>
    rw [writeAll, List.flatten_cons, ← List.append_assoc]
    rcases write_blocked h bs with ⟨t, hw, ht⟩ | ⟨hne, t, hw⟩
    · rw [hw]
      dsimp only
      rcases ih ht.room with ⟨u, hu, htu⟩ | ⟨hne, u, hu⟩
      · exact .inl ⟨u, hu, ht.trans htu⟩
      · exact .inr ⟨by rwa [← ht.held], u, by rw [hu, ht.fault]⟩
    · exact .inr ⟨by simp_all, t, by rw [hw]⟩

lemma flush_of_held_nil (h : s.held = []) : s.flush = (s, s.flushFault) := by
  rw [flush, empty_of_held_nil h]

lemma flush_blocked (h : s.room = some 0) (hne : s.held ≠ []) :
    ∃ t, s.flush = (t, some s.fault) := by
  obtain ⟨t, ht⟩ := empty_blocked h hne
  exact ⟨t, by rw [flush, ht]⟩

end TemplateGrep.Sink
