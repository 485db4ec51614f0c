import Mathlib
import TemplateGrep.Search.Filter

/-! A script is a row of writes and the result that follows if all of them work. Sinks perform
scripts: one that holds nothing back takes a beginning of the output, one without an end takes it
all. -/

namespace TemplateGrep

structure Script (α : Type) where
  writes : List Bytes
  result : Except Failure α

namespace Script

variable {α : Type}

def output (p : Script α) : Bytes := p.writes.flatten

def stop (r : Except Failure α) : Script α := ⟨[], r⟩

def andThen (p q : Script Unit) : Script Unit :=
  match p.result with
  | .ok () => ⟨p.writes ++ q.writes, q.result⟩
  | .error _ => p

def void (p : Script α) : Script Unit := ⟨p.writes, p.result.map fun _ => ()⟩

lemma andThen_of_ok {p q : Script Unit} (h : p.result = .ok ()) :
    p.andThen q = ⟨p.writes ++ q.writes, q.result⟩ := by
  simp only [andThen, h]

lemma andThen_of_error {p q : Script Unit} {e : Failure} (h : p.result = .error e) :
    p.andThen q = p := by
  simp only [andThen, h]

lemma andThen_stop (p : Script Unit) : p.andThen (stop (.ok ())) = p := by
  obtain ⟨writes, result⟩ := p
  cases result <;> simp [andThen, stop]

end Script

namespace Sink

variable {α : Type}

def writeAll : List Bytes → Sink → Sink × Option Fault
  | [], s => (s, none)
  | bs :: rest, s =>
      match s.write bs with
      | (s, some f) => (s, some f)
      | (s, none) => writeAll rest s

def perform (s : Sink) (p : Script α) : Sink × Except Failure α :=
  match writeAll p.writes s with
  | (s, some f) => (s, .error (.io stdoutName f))
  | (s, none) => (s, p.result)

lemma writeAll_append (ws vs : List Bytes) (s : Sink) :
    writeAll (ws ++ vs) s =
      match writeAll ws s with
      | (s, some f) => (s, some f)
      | (s, none) => writeAll vs s := by
  induction ws generalizing s with
  | nil => rfl
  | cons bs ws ih =>
    rw [List.cons_append, writeAll, writeAll]
    rcases s.write bs with ⟨t, _ | f⟩
    · exact ih t
    · rfl

lemma writeLine_eq_writeAll (s : Sink) (line : Bytes) :
    s.writeLine line = writeAll [line, [Bytes.newline]] s := by
  rw [writeLine, writeAll]
  rcases s.write line with ⟨t, _ | f⟩
  · simp only [writeAll]
    rcases t.write [Bytes.newline] with ⟨u, _ | f⟩ <;> rfl
  · rfl

lemma perform_void (s : Sink) (p : Script α) :
    s.perform p.void = ((s.perform p).1, (s.perform p).2.map fun _ => ()) := by
  simp only [perform, Script.void]
  rcases writeAll p.writes s with ⟨t, _ | f⟩ <;> rfl

lemma perform_andThen (s : Sink) (p q : Script Unit) :
    s.perform (p.andThen q) =
      match s.perform p with
      | (t, .ok ()) => t.perform q
      | (t, .error e) => (t, .error e) := by
  cases hr : p.result with
  | ok u =>
    simp only [Script.andThen_of_ok hr, perform, writeAll_append]
    rcases writeAll p.writes s with ⟨t, _ | f⟩
    · simp only [hr]
    · rfl
  | error e =>
    simp only [Script.andThen_of_error hr, perform]
    rcases writeAll p.writes s with ⟨t, _ | f⟩
    · simp only [hr]
    · rfl

structure Direct (s : Sink) : Prop where
  held : s.held = []
  capacity : s.capacity = 0

lemma deliver_nil (s : Sink) : s.deliver [] = (s, none) := by
  obtain ⟨taken, held, capacity, room, fault, flushFault⟩ := s
  cases room <;> simp [deliver]

lemma deliver_append (s : Sink) (as bs : Bytes) :
    s.deliver (as ++ bs) =
      match s.deliver as with
      | (s, some f) => (s, some f)
      | (s, none) => s.deliver bs := by
  cases hr : s.room with
  | none => simp [deliver, hr]
  | some n =>
    by_cases ha : as.length ≤ n
    · have hfit : as.length + bs.length ≤ n ↔ bs.length ≤ n - as.length := by omega
      simp only [deliver, hr, List.length_append, if_pos ha, hfit, List.append_assoc,
        Nat.sub_add_eq, List.take_append, List.take_of_length_le ha]
    · have hno : ¬ as.length + bs.length ≤ n := by omega
      have hzero : n - as.length = 0 := by omega
      simp [deliver, hr, ha, hno, List.take_append, hzero]

namespace Direct

variable {s : Sink}

lemma deliver (h : s.Direct) (bs : Bytes) : (s.deliver bs).1.Direct := by
  obtain ⟨hheld, hcap⟩ := h
  unfold Sink.deliver
  split
  · exact ⟨hheld, hcap⟩
  · split <;> exact ⟨hheld, hcap⟩

lemma empty_eq (h : s.Direct) : s.empty = (s, none) := by
  have hs : { s with held := [] } = s := by rw [← h.held]
  rw [Sink.empty, hs, h.held, deliver_nil]

lemma write_eq (h : s.Direct) (bs : Bytes) : s.write bs = s.deliver bs := by
  have hplace : s.place bs = s.deliver bs := by
    rw [place, if_pos (h.capacity ▸ Nat.zero_le _)]
  rw [write, h.empty_eq]
  dsimp only
  rw [hplace, ite_self]

lemma flush_eq (h : s.Direct) : s.flush = (s, s.flushFault) := by
  rw [flush, h.empty_eq]

lemma writeAll_eq (h : s.Direct) (ws : List Bytes) : writeAll ws s = s.deliver ws.flatten := by
  induction ws generalizing s with
  | nil => exact (deliver_nil s).symm
  | cons bs ws ih =>
    have hd := h.deliver bs
    rw [writeAll, h.write_eq, List.flatten_cons, deliver_append]
    rcases hs : s.deliver bs with ⟨t, _ | f⟩
    · rw [hs] at hd
      exact ih hd
    · rfl

lemma perform_eq {α : Type} (h : s.Direct) (p : Script α) :
    s.perform p =
      match s.deliver p.output with
      | (s, some f) => (s, .error (.io stdoutName f))
      | (s, none) => (s, p.result) := by
  rw [perform, h.writeAll_eq, Script.output]

end Direct

structure Takes (s : Sink) (bs : Bytes) (t : Sink) : Prop where
  room : t.room = none
  close : t.close = s.close ++ bs
  flushFault : t.flushFault = s.flushFault

namespace Takes

variable {s t u : Sink} {as bs : Bytes}

lemma refl (h : s.room = none) : s.Takes [] s := ⟨h, by simp, rfl⟩

lemma trans (h : s.Takes as t) (h' : t.Takes bs u) : s.Takes (as ++ bs) u where
  room := h'.room
  close := by rw [h'.close, h.close, List.append_assoc]
  flushFault := h'.flushFault.trans h.flushFault

end Takes

lemma exists_empty {s : Sink} (h : s.room = none) :
    ∃ t, s.empty = (t, none) ∧ s.Takes [] t ∧ t.held = [] := by
  refine ⟨{ s with held := [], taken := s.taken ++ s.held }, ?_, ⟨h, ?_, rfl⟩, rfl⟩
  · simp [empty, deliver, h]
  · simp [close, empty, deliver, h]

lemma exists_place {s : Sink} (h : s.room = none) (bs : Bytes)
    (hfit : s.held.length + bs.length ≤ s.capacity ∨ s.held = []) :
    ∃ t, s.place bs = (t, none) ∧ s.Takes bs t := by
  unfold place
  split
  case isTrue hle =>
    have hheld : s.held = [] := by
      rcases hfit with hfit | hheld
      · exact List.length_eq_zero_iff.mp (by omega)
      · exact hheld
    refine ⟨{ s with taken := s.taken ++ bs }, by simp [deliver, h], h, ?_, rfl⟩
    simp [close, empty, deliver, h, hheld]
  case isFalse =>
    refine ⟨{ s with held := s.held ++ bs }, rfl, h, ?_, rfl⟩
    simp [close, empty, deliver, h]

lemma exists_write {s : Sink} (h : s.room = none) (bs : Bytes) :
    ∃ t, s.write bs = (t, none) ∧ s.Takes bs t := by
  unfold write
  split
  case isTrue hfit => exact exists_place h bs (.inl hfit)
  case isFalse =>
    obtain ⟨t, he, ht, hheld⟩ := exists_empty h
    obtain ⟨u, hp, hu⟩ := exists_place ht.room bs (.inr hheld)
    exact ⟨u, by rw [he]; exact hp, ht.trans hu⟩

lemma exists_writeAll {s : Sink} (h : s.room = none) (ws : List Bytes) :
    ∃ t, writeAll ws s = (t, none) ∧ s.Takes ws.flatten t := by
  induction ws generalizing s with
  | nil => exact ⟨s, rfl, .refl h⟩
  | cons bs ws ih =>
    obtain ⟨t, hw, ht⟩ := exists_write h bs
    obtain ⟨u, hr, hu⟩ := ih ht.room
    exact ⟨u, by rw [writeAll, hw]; exact hr, ht.trans hu⟩

lemma exists_perform {α : Type} {s : Sink} (h : s.room = none) (p : Script α) :
    ∃ t, s.perform p = (t, p.result) ∧ s.Takes p.output t := by
  obtain ⟨t, hw, ht⟩ := exists_writeAll h p.writes
  exact ⟨t, by rw [perform, hw], ht⟩

lemma exists_flush {s : Sink} (h : s.room = none) :
    ∃ t, s.flush = (t, s.flushFault) ∧ s.Takes [] t := by
  obtain ⟨t, he, ht, -⟩ := exists_empty h
  refine ⟨t, ?_, ht⟩
  rw [flush, he, ← ht.flushFault]

end Sink

end TemplateGrep
