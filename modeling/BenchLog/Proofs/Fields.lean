import BenchLog.Proofs.IntegerLiteral
import BenchLog.Proofs.Reading

/-!
# What a field can hold

An unsigned field never holds more than its limit. The latency and the extra retries of a line that was
read are therefore numbers of 64 bits (`Entry.latency_le`, `Entry.extra_le`).
-/

namespace BenchLog

namespace Entry

theorem natField_le {name : String} {limit value : Nat} {raw : List Char}
    (h : natField name limit raw = .ok value) : value ≤ limit :=
  (Decimal.readUnsigned_eq_ok_iff.mp (Loop.mapError_eq_ok_iff.mp h)).2

/-- The five fields that every line has do not touch the extra retries. -/
theorem extra_of_ofFields {id start finish latency status : List Char} {kind : Int} {extra : Nat}
    {entry : Entry} (h : ofFields id start finish latency status kind extra = .ok entry) :
    entry.extra = extra := by
  simp only [ofFields, Loop.bind_eq_ok_iff] at h
  obtain ⟨_, -, _, -, _, -, _, -, _, -, h⟩ := h
  cases h
  rfl

theorem extra_le_of_ofWords {words : List (List Char)} {entry : Entry}
    (h : ofWords words = .ok entry) : entry.extra ≤ Decimal.wordLimit := by
  unfold ofWords at h
  split at h
  · rw [extra_of_ofFields h]
    exact Nat.zero_le _
  · simp only [Loop.bind_eq_ok_iff] at h
    obtain ⟨_, -, _, hextra, h⟩ := h
    rw [extra_of_ofFields h]
    exact natField_le hextra
  · cases h

theorem latency_le_of_ofFields {id start finish latency status : List Char} {kind : Int} {extra : Nat}
    {entry : Entry} (h : ofFields id start finish latency status kind extra = .ok entry) :
    entry.latency ≤ Decimal.wordLimit := by
  simp only [ofFields, Loop.bind_eq_ok_iff] at h
  obtain ⟨_, -, _, -, _, -, _, -, latency, hlatency, h⟩ := h
  cases h
  exact natField_le hlatency

theorem latency_le_of_ofWords {words : List (List Char)} {entry : Entry}
    (h : ofWords words = .ok entry) : entry.latency ≤ Decimal.wordLimit := by
  unfold ofWords at h
  split at h
  · exact latency_le_of_ofFields h
  · simp only [Loop.bind_eq_ok_iff] at h
    obtain ⟨_, -, _, -, h⟩ := h
    exact latency_le_of_ofFields h
  · cases h

/-- The extra retries of a line fit 64 bits. -/
theorem extra_le {line : LogLine} {entry : Entry} (h : ofLine line = .ok entry) :
    entry.extra ≤ Decimal.wordLimit :=
  extra_le_of_ofWords (ofLine_eq_ok_iff.mp h)

/-- The latency of a line fits 64 bits. -/
theorem latency_le {line : LogLine} {entry : Entry} (h : ofLine line = .ok entry) :
    entry.latency ≤ Decimal.wordLimit :=
  latency_le_of_ofWords (ofLine_eq_ok_iff.mp h)

theorem latency_le_of_mem_ofAccepted {lines : List LogLine} {entry : Entry}
    (h : entry ∈ ofAccepted lines) : entry.latency ≤ Decimal.wordLimit := by
  obtain ⟨line, -, hline⟩ := List.mem_filterMap.mp h
  exact latency_le (Loop.toOption_eq_some_iff.mp hline)

end Entry

end BenchLog
