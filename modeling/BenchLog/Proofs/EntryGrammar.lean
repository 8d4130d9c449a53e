import BenchLog.Proofs.FloatLiteral
import BenchLog.Proofs.Reading
import BenchLog.Proofs.Words

/-!
# The grammar of entries

A line is an entry if and only if it is a layout of five or of seven words, each of which is a literal of
its kind and in its range, and then the entry has the values that the literals write (`Entry.Writes`). What
is read depends on the words alone, and a line of five words is read as if it went on with the two that
such a line leaves out (`ofLine_grammar`).
-/

namespace BenchLog

open Decimal Text

/-- The status code of an outcome. -/
def Outcome.code : Outcome → ℕ
  | .committed => 1
  | .writeAborted => 2
  | .readAborted => 3

theorem Outcome.ofCode?_eq_some_iff {code : ℕ} {outcome : Outcome} :
    ofCode? code = some outcome ↔ outcome.code = code := by
  constructor
  · intro h
    unfold ofCode? at h
    split at h <;> cases h <;> rfl
  · rintro rfl
    cases outcome <;> rfl

theorem Outcome.code_le (outcome : Outcome) : outcome.code ≤ byteLimit := by
  cases outcome <;> decide

namespace Entry

/-- The five words that every line has are the literals of an entry's values. -/
structure WritesFields (id start finish latency status : List Char) (entry : Entry) : Prop where
  id : WritesWord id entry.id
  start : WritesFloat start entry.start
  finish : WritesFloat finish entry.finish
  latency : WritesWord latency entry.latency
  outcome : WritesNat status entry.outcome.code

/-- The words of a line and the entry that they write. -/
inductive Writes : List (List Char) → Entry → Prop where
  | untagged {id start finish latency status : List Char} {entry : Entry}
      (h : WritesFields id start finish latency status entry) (hkind : entry.kind = -1)
      (hextra : entry.extra = 0) : Writes [id, start, finish, latency, status] entry
  | tagged {id start finish latency status kind extra : List Char} {entry : Entry}
      (h : WritesFields id start finish latency status entry) (hkind : WritesSigned kind entry.kind)
      (hextra : WritesWord extra entry.extra) :
      Writes [id, start, finish, latency, status, kind, extra] entry

/-- Two lines give the same entry, or they are malformed for the same reason. -/
def ReadAlike (line other : LogLine) : Prop :=
  ∃ outcome : Except Reason Entry, ofLine line = outcome.mapError (.malformed line) ∧
    ofLine other = outcome.mapError (.malformed other)

/-! ## Fields -/

variable {name : String} {raw : List Char}

theorem natField_eq_ok_iff {limit n : ℕ} :
    natField name limit raw = .ok n ↔ WritesNat raw n ∧ n ≤ limit :=
  Loop.mapError_eq_ok_iff.trans readUnsigned_eq_ok_iff

theorem wordField_eq_ok_iff {n : ℕ} : natField name wordLimit raw = .ok n ↔ WritesWord raw n :=
  Loop.mapError_eq_ok_iff.trans readUnsigned_wordLimit_iff

theorem intField_eq_ok_iff {z : ℤ} : intField name raw = .ok z ↔ WritesSigned raw z :=
  Loop.mapError_eq_ok_iff.trans readSigned_signedLimit_iff

theorem floatField_eq_ok_iff {x : Float} : floatField name raw = .ok x ↔ WritesFloat raw x :=
  Loop.mapError_eq_ok_iff.trans readFloat_eq_ok_iff

theorem outcomeField_eq_ok_iff {outcome : Outcome} :
    outcomeField raw = .ok outcome ↔ WritesNat raw outcome.code := by
  rw [outcomeField, Loop.bind_eq_ok_iff]
  simp only [natField_eq_ok_iff]
  constructor
  · rintro ⟨code, ⟨hwrites, -⟩, h⟩
    split at h
    · rename_i hcode
      cases h
      rwa [Outcome.ofCode?_eq_some_iff.mp hcode]
    · cases h
  · intro hwrites
    refine ⟨outcome.code, ⟨hwrites, outcome.code_le⟩, ?_⟩
    rw [Outcome.ofCode?_eq_some_iff.mpr rfl]
    rfl

theorem ofFields_eq_ok_iff {id start finish latency status : List Char} {kind : ℤ} {extra : ℕ}
    {entry : Entry} : ofFields id start finish latency status kind extra = .ok entry ↔
      WritesFields id start finish latency status entry ∧ entry.kind = kind ∧ entry.extra = extra := by
  simp only [ofFields, Loop.bind_eq_ok_iff, outcomeField_eq_ok_iff, wordField_eq_ok_iff,
    floatField_eq_ok_iff]
  constructor
  · rintro ⟨outcome, houtcome, id, hid, start, hstart, finish, hfinish, latency, hlatency, hentry⟩
    cases hentry
    exact ⟨⟨hid, hstart, hfinish, hlatency, houtcome⟩, rfl, rfl⟩
  · rintro ⟨⟨hid, hstart, hfinish, hlatency, houtcome⟩, rfl, rfl⟩
    exact ⟨_, houtcome, _, hid, _, hstart, _, hfinish, _, hlatency, rfl⟩

/-! ## Lines -/

theorem ofWords_eq_ok_iff {words : List (List Char)} {entry : Entry} :
    ofWords words = .ok entry ↔ Writes words entry := by
  constructor
  · intro h
    unfold ofWords at h
    split at h
    · obtain ⟨hfields, hkind, hextra⟩ := ofFields_eq_ok_iff.mp h
      exact .untagged hfields hkind hextra
    · simp only [Loop.bind_eq_ok_iff, intField_eq_ok_iff, wordField_eq_ok_iff] at h
      obtain ⟨kind, hkind, extra, hextra, hentry⟩ := h
      obtain ⟨hfields, rfl, rfl⟩ := ofFields_eq_ok_iff.mp hentry
      exact .tagged hfields hkind hextra
    · cases h
  · rintro (⟨hfields, hkind, hextra⟩ | ⟨hfields, hkind, hextra⟩)
    · exact ofFields_eq_ok_iff.mpr ⟨hfields, hkind, hextra⟩
    · simp only [ofWords, intField_eq_ok_iff.mpr hkind, wordField_eq_ok_iff.mpr hextra, Loop.ok_bind]
      exact ofFields_eq_ok_iff.mpr ⟨hfields, rfl, rfl⟩

/-- The two words that a line of five leaves out change nothing when they are written. -/
theorem ofWords_append_untagged : ∀ {words : List (List Char)}, words.length = 5 →
    ofWords (words ++ ["-1".toList, "0".toList]) = ofWords words
  | [_, _, _, _, _], _ => rfl

theorem ofLine_eq {line : LogLine} {words : List (List Char)} (h : Laid words line.text.toList) :
    ofLine line = (ofWords words).mapError (.malformed line) := by
  rw [ofLine, h.words_eq]

/-- What is read of a line: an entry if and only if its words write one, and else the line is malformed.
    Nothing but the words matters, and the two words that a line of five leaves out may stand there. -/
theorem ofLine_grammar :
    (∀ line entry, ofLine line = .ok entry ↔
      ∃ words, Laid words line.text.toList ∧ Writes words entry) ∧
    (∀ line, (∃ entry, ofLine line = .ok entry) ∨ ∃ reason, ofLine line = .error (.malformed line reason)) ∧
    (∀ words line other, Laid words line.text.toList → Laid words other.text.toList →
      ReadAlike line other) ∧
    ∀ words gap line tagged, Laid words line.text.toList → words.length = 5 → Blank gap → gap ≠ [] →
      tagged.text.toList = line.text.toList ++ gap ++ "-1 0".toList → ReadAlike line tagged := by
  refine ⟨fun line entry => ?_, fun line => ?_, ?_, ?_⟩
  · simp only [ofLine_eq_ok_iff, ofWords_eq_ok_iff, laid_iff, exists_eq_left']
  · cases hline : ofLine line with
    | ok entry => exact Or.inl ⟨entry, rfl⟩
    | error failure =>
        obtain ⟨reason, rfl⟩ := exists_reason_of_ofLine hline
        exact Or.inr ⟨reason, rfl⟩
  · intro words line other hline hother
    exact ⟨ofWords words, ofLine_eq hline, ofLine_eq hother⟩
  · intro words gap line tagged hline hfive hgap hne htext
    have htagged : Laid (words ++ ["-1".toList, "0".toList]) tagged.text.toList := by
      rw [htext]
      exact hline.append hgap hne (laid_iff.mpr rfl)
    refine ⟨ofWords words, ofLine_eq hline, ?_⟩
    rw [ofLine_eq htagged, ofWords_append_untagged hfive]

/-- A line with blanks of several kinds. -/
def spaced : LogLine := ⟨"a.log", 3, "\t7 0.5  1.5e0 +250\t01 "⟩

/-- The line with blanks of several kinds is an entry, as it is with single blanks and with the two words
    that it leaves out. A line of six words is malformed. -/
theorem ofLine_grammar_spaced :
    (∃ words, Laid words spaced.text.toList ∧ Writes words ⟨7, 0.5, 1.5, 250, .committed, -1, 0⟩) ∧
    ReadAlike spaced ⟨"b.log", 1, "7 0.5 1.5e0 +250 01"⟩ ∧
    ReadAlike spaced ⟨"c.log", 1, "\t7 0.5  1.5e0 +250\t01 \t-1 0"⟩ ∧
    ∃ reason, ofLine ⟨"a.log", 4, "7 0.5 1.5 250 1 4"⟩ =
      .error (.malformed ⟨"a.log", 4, "7 0.5 1.5 250 1 4"⟩ reason) := by
  obtain ⟨hgrammar, htotal, hwords, huntagged⟩ := ofLine_grammar
  have hlaid (line : LogLine) : Laid (words line.text.toList) line.text.toList := laid_iff.mpr rfl
  have hspaced : (ofLine spaced).toOption = some ⟨7, 0.5, 1.5, 250, .committed, -1, 0⟩ := by
    decide +kernel
  refine ⟨?_, ?_, ?_, ?_⟩
  · exact (hgrammar spaced _).mp (Loop.toOption_eq_some_iff.mp hspaced)
  · have hother := hlaid ⟨"b.log", 1, "7 0.5 1.5e0 +250 01"⟩
    exact hwords _ spaced _ (laid_iff.mpr (by decide +kernel)) hother
  · exact huntagged _ ['\t'] spaced _ (hlaid spaced) (by decide +kernel) (by simp [Blank, isBlank])
      (by simp) (by decide +kernel)
  · refine (htotal _).resolve_left ?_
    rintro ⟨entry, hentry⟩
    have hnone : (ofLine ⟨"a.log", 4, "7 0.5 1.5 250 1 4"⟩).toOption = none := by decide +kernel
    rw [hentry] at hnone
    cases hnone

end Entry

end BenchLog
