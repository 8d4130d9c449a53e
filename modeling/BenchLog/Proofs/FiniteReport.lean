import BenchLog.Program
import BenchLog.Proofs.Cells
import BenchLog.Proofs.Clients
import BenchLog.Proofs.Decomposition
import BenchLog.Proofs.Fields
import BenchLog.Proofs.FloatMeans

/-!
# Finite statistics

Of the statistics of a report only a rate and a mean over clients can fail to be finite: a rate when the
time is so short that the count divided by it is out of range, a mean when a client reports one that is
not finite or when the means add up to more than fits. All others are finite for every input
(`TransactionSummary.finite_iff`, `MicrobenchSummary.finite_iff`). A statistic that is not finite is a null
in the record of the report and an empty cell in its row.
-/

namespace BenchLog

open Binary64

theorem Decimal.le_two_pow_of_le_wordLimit {n : Nat} (h : n ≤ Decimal.wordLimit) : n ≤ 2 ^ 64 :=
  h.trans (by decide)

/-! ## Transactions -/

namespace MergedTally

variable {tracked : Tracked} {entries : List Entry}

/-- The latencies that a tally holds are those of its entries. -/
theorem get_ofEntries_le (words : ∀ entry ∈ entries, entry.latency ≤ Decimal.wordLimit)
    (grouping : Grouping) :
    ∀ latency ∈ ((ofEntries tracked entries).groups.get grouping).toList, latency ≤ 2 ^ 64 := by
  intro latency member
  rw [(toList_get_perm tracked entries grouping).mem_iff] at member
  obtain ⟨entry, hentry, rfl⟩ := List.mem_map.mp member
  exact Decimal.le_two_pow_of_le_wordLimit (words entry (List.mem_of_mem_filter hentry))

end MergedTally

namespace TransactionSummary

/-- The statistics that are no integers. -/
def floats (summary : TransactionSummary) : List Float :=
  [summary.abortRates.all, summary.abortRates.write, summary.abortRates.read,
    summary.throughput.all, summary.throughput.committed, summary.throughput.aborted,
    summary.latency.all.mean, summary.latency.committed.mean, summary.latency.aborted.mean,
    summary.followMean, summary.tweetMean]

/-- All statistics are finite if the rate of all transactions is: the other rates and the shares are of
    fewer transactions, and the means are finite anyway. -/
theorem finite_iff {tally : MergedTally} {duration : Float} {summary : TransactionSummary}
    (h : ofTally tally duration = .ok summary)
    (balanced : (Counts.ofTally tally).Balanced)
    (words : ∀ grouping, ∀ latency ∈ (tally.groups.get grouping).toList, latency ≤ 2 ^ 64) :
    (∀ x ∈ summary.floats, x.isFinite = true) ↔
      (Float.ofNat (Counts.ofTally tally).total / duration).isFinite = true := by
  unfold ofTally at h
  split at h
  · cases h
  rename_i hduration
  split at h
  · cases h
  rename_i hempty
  cases h
  have hsize : 0 < size duration := size_pos_of_isDuration (by simpa using hduration)
  have hpos : 0 < (Counts.ofTally tally).total :=
    List.length_pos_iff.mpr (by simpa [SortedLatencies.isEmpty] using hempty)
  have hmean (grouping : Grouping) := isFinite_meanOf (words grouping)
  constructor
  · intro hfinite
    exact hfinite _ (by simp [floats])
  · intro hrate
    have htotal : (Float.ofNat (Counts.ofTally tally).total).isFinite = true :=
      isFinite_ofNat_iff.mpr ((isFinite_ofNat_div_iff hsize).mp hrate).1
    have hshare {count : Nat} (hle : count ≤ (Counts.ofTally tally).total) :=
      (isFinite_div_ofNat_iff hpos).mpr (isFinite_ofNat_of_le hle htotal)
    have hthroughput {count : Nat} (hle : count ≤ (Counts.ofTally tally).total) :=
      isFinite_ofNat_div_of_le hle hsize hrate
    have hcommitted := balanced.total
    have haborted := balanced.aborted
    simp only [floats, List.forall_mem_cons, List.not_mem_nil, false_implies, implies_true, and_true]
    refine ⟨hshare (by omega), hshare (by omega), hshare (by omega), hrate, hthroughput (by omega),
      hthroughput (by omega), hmean .all, hmean .committed, hmean .aborted, hmean .follow, hmean .tweet⟩

/-- A property of values that no integer has is had by the value of a statistic that is none. -/
theorem exists_field_iff {p : Json → Prop} (hnat : ∀ n, ¬p (.ofNat n))
    (hfloat : ∀ x, p (.ofFloat x) ↔ x.isFinite = false) (summary : TransactionSummary) :
    (∃ field ∈ summary.fields, p field.2.toJson) ↔ ∃ x ∈ summary.floats, x.isFinite = false := by
  simp [floats, fields, LatencySummary.fields, Statistic.toJson, hnat, hfloat]

end TransactionSummary

namespace Analysis

theorem finite_iff {lines : List LogLine} {settings : Settings} {analysis : Analysis}
    (h : ofLines lines settings = .ok analysis) :
    (∀ x ∈ analysis.summary.floats, x.isFinite = true) ↔
      Fits (counted settings lines).length ∧
        Fits (nearest (counted settings lines).length / size settings.duration) := by
  obtain ⟨htally, hsummary, -⟩ := of_ofLines_eq_ok h
  obtain ⟨-, -, hduration, -⟩ := exists_ofLines_eq_ok_iff.mp ⟨analysis, h⟩
  have hdecomposes := MergedTally.decomposes_ofEntries settings.tracked (counted settings lines)
  rw [htally] at hsummary
  rw [TransactionSummary.finite_iff hsummary hdecomposes.balanced, MergedTally.total_ofEntries]
  · exact isFinite_ofNat_div_iff (size_pos_of_isDuration hduration)
  · apply MergedTally.get_ofEntries_le
    intro entry member
    rw [counted, Window.kept_eq_filter] at member
    exact Entry.latency_le_of_mem_ofAccepted (List.mem_of_mem_filter member)

end Analysis

/-! ## Microbenchmarks -/

namespace ClientSummary

/-- The mean over the clients of a number that fits 64 bits. -/
theorem isFinite_meanOf_map {lines : List LogLine} {value : ClientSummary → Nat}
    (h : ∀ client ∈ ofAccepted lines, value client ≤ Decimal.wordLimit) :
    (meanOf ((ofAccepted lines).map value)).isFinite = true := by
  apply isFinite_meanOf
  intro n hn
  obtain ⟨client, hclient, rfl⟩ := List.mem_map.mp hn
  exact Decimal.le_two_pow_of_le_wordLimit (h client hclient)

end ClientSummary

namespace MicrobenchSummary

/-- The statistics that are no integers. -/
def floats (summary : MicrobenchSummary) : List Float :=
  [summary.mean, summary.median, summary.p99, summary.p999]

theorem exists_field_iff {p : Json → Prop} (hnat : ∀ n, ¬p (.ofNat n))
    (hfloat : ∀ x, p (.ofFloat x) ↔ x.isFinite = false) (summary : MicrobenchSummary) :
    (∃ field ∈ summary.fields, p field.2.toJson) ↔ ∃ x ∈ summary.floats, x.isFinite = false := by
  simp [floats, fields, Statistic.toJson, hnat, hfloat]

/-- All statistics are finite if the mean over the clients is, which means that their means have a finite
    sum. -/
theorem finite_iff {lines : List LogLine} {summary : MicrobenchSummary}
    (h : ofLines lines = .ok summary) :
    (∀ x ∈ summary.floats, x.isFinite = true) ↔
      (sumFloats ((ClientSummary.ofAccepted lines).map (·.mean))).isFinite = true := by
  unfold ofLines at h
  obtain ⟨clients, hclients, h⟩ := Loop.bind_eq_ok_iff.mp h
  have hsummaries := map_snd_readClients hclients
  have hlength : clients.length = (ClientSummary.ofAccepted lines).length := by
    rw [← hsummaries, List.length_map]
  rw [hsummaries, hlength] at h
  split at h
  · cases h
  rename_i hempty
  obtain ⟨throughput, -, h⟩ := Loop.bind_eq_ok_iff.mp h
  cases h
  have hpos : 0 < (ClientSummary.ofAccepted lines).length := by
    rw [← hlength]
    exact List.length_pos_iff.mpr (by simpa using hempty)
  have words {client : ClientSummary} (hclient : client ∈ ClientSummary.ofAccepted lines) :=
    ClientSummary.le_of_mem_ofAccepted hclient
  have hmedian := ClientSummary.isFinite_meanOf_map fun _ hclient => (words hclient).1
  have hp99 := ClientSummary.isFinite_meanOf_map fun _ hclient => (words hclient).2.1
  have hp999 := ClientSummary.isFinite_meanOf_map fun _ hclient => (words hclient).2.2
  simp only [floats, List.forall_mem_cons, List.not_mem_nil, false_implies, implies_true, and_true]
  rw [isFinite_div_ofNat_iff hpos]
  exact and_iff_left ⟨hmedian, hp99, hp999⟩

end MicrobenchSummary

/-! ## Reports -/

/-- A record that has no value for some field. -/
def Json.HasNull : Json → Prop
  | .object members => ∃ member ∈ members, member.2 = .null
  | _ => False

/-- A record with a field whose cell is empty. -/
def Csv.HasEmptyCell : Json → Prop
  | .object members => ∃ member ∈ members, cell member.2 = .ok ""
  | _ => False

namespace Report

/-- The statistics that are no integers. -/
def floats : Report → List Float
  | .transactions summary _ _ => summary.floats
  | .microbench summary => summary.floats

/-- Every statistic is a finite number. -/
def Finite (report : Report) : Prop :=
  ∀ x ∈ report.floats, x.isFinite = true

instance (report : Report) : Decidable report.Finite :=
  inferInstanceAs (Decidable (∀ x ∈ report.floats, x.isFinite = true))

theorem not_finite_iff {report : Report} :
    ¬report.Finite ↔ ∃ x ∈ report.floats, x.isFinite = false := by
  simp [Finite]

/-- A property of values that no integer has is had by the value of some field if some statistic is not
    finite. -/
theorem exists_value_iff {p : Json → Prop} (hnat : ∀ n, ¬p (.ofNat n))
    (hfloat : ∀ x, p (.ofFloat x) ↔ x.isFinite = false) (report : Report) :
    (∃ field ∈ report.fields, p field.2.toJson) ↔ ¬report.Finite := by
  rw [not_finite_iff]
  cases report with
  | transactions summary window histogram => exact summary.exists_field_iff hnat hfloat
  | microbench summary => exact summary.exists_field_iff hnat hfloat

theorem hasNull_record_iff (report : Report) : report.record.HasNull ↔ ¬report.Finite := by
  rw [← exists_value_iff (p := (· = .null)) Json.ofNat_ne_null (fun _ => Json.ofFloat_eq_null_iff)]
  simp [record, Json.HasNull]

theorem hasEmptyCell_record_iff (report : Report) : Csv.HasEmptyCell report.record ↔ ¬report.Finite := by
  rw [← exists_value_iff (p := (Csv.cell · = .ok "")) Csv.cell_ofNat_ne_empty
    (fun _ => Csv.cell_ofFloat_eq_empty_iff)]
  simp [record, Csv.HasEmptyCell]

end Report

namespace Program

variable {lines : List LogLine} {settings : Settings} {report : Report}

/-- The statistics that can be too large are not: the number of transactions and their rate, or the sum of
    the clients' mean latencies. -/
def InRange (settings : Settings) (lines : List LogLine) : Prop :=
  match settings.inputKind with
  | .transactions =>
    Fits (Analysis.counted settings lines).length ∧
      Fits (nearest (Analysis.counted settings lines).length / size settings.duration)
  | .microbench =>
    (sumFloats ((ClientSummary.ofAccepted lines).map (·.mean))).isFinite = true

/-- Fewer transactions than 64 bits count in a time that is not next to nothing, or clients whose mean
    latencies are numbers of 64 bits. -/
def Ordinary (settings : Settings) (lines : List LogLine) : Prop :=
  match settings.inputKind with
  | .transactions => lines.length ≤ 2 ^ 64 ∧ 2 ^ (-959 : ℤ) ≤ size settings.duration
  | .microbench =>
    ∀ client ∈ ClientSummary.ofAccepted lines, Nonneg client.mean ∧ size client.mean ≤ 2 ^ 64

theorem inRange_of_ordinary (h : Ordinary settings lines) : InRange settings lines := by
  unfold Ordinary at h
  unfold InRange
  cases hkind : settings.inputKind with
  | transactions =>
    simp only [hkind] at h ⊢
    obtain ⟨hlines, hduration⟩ := h
    have hcount : ((Analysis.counted settings lines).length : ℚ) ≤ 2 ^ 64 := by
      exact_mod_cast (Analysis.length_counted_le settings lines).trans hlines
    have hnonneg : (0 : ℚ) ≤ (Analysis.counted settings lines).length := Nat.cast_nonneg _
    have hrounded := nearest_le_of_grid hnonneg (grid_two_pow 64) hcount
    have hrate : nearest (Analysis.counted settings lines).length / size settings.duration ≤ 2 ^ 1023 := by
      rw [div_le_iff₀ ((two_zpow_pos _).trans_le hduration)]
      calc nearest (Analysis.counted settings lines).length ≤ 2 ^ 64 := hrounded
        _ = 2 ^ 1023 * 2 ^ (-959 : ℤ) := by
          rw [two_pow_mul_two_zpow, ← zpow_natCast]
          norm_num
        _ ≤ 2 ^ 1023 * size settings.duration := mul_le_mul_of_nonneg_left hduration (by positivity)
    refine ⟨fits_of_le_two_pow hnonneg (by norm_num) hcount, ?_⟩
    refine fits_of_le_two_pow (div_nonneg (grid_nearest hnonneg).nonneg (size_nonneg _)) ?_ hrate
    norm_num
  | microbench =>
    simp only [hkind] at h ⊢
    refine (nonneg_sumFloats ?_).finite
    intro x hx
    obtain ⟨client, hclient, rfl⟩ := List.mem_map.mp hx
    exact h client hclient

theorem finite_iff_inRange (h : analyze lines settings = .ok report) :
    report.Finite ↔ InRange settings lines := by
  unfold analyze at h
  unfold InRange
  cases hkind : settings.inputKind with
  | transactions =>
    simp only [hkind] at h ⊢
    obtain ⟨analysis, hanalysis, hreport⟩ := Loop.bind_eq_ok_iff.mp h
    cases hreport
    exact Analysis.finite_iff hanalysis
  | microbench =>
    simp only [hkind] at h ⊢
    obtain ⟨summary, hsummary, hreport⟩ := Loop.bind_eq_ok_iff.mp h
    cases hreport
    exact MicrobenchSummary.finite_iff hsummary

/-- A report has nothing but finite statistics if and only if those that can be too large are not, as is the
    case for ordinary input. Otherwise its record has a null value, and a row of cells an empty one. -/
theorem analyze_finite_iff_inRange (h : analyze lines settings = .ok report) :
    (report.Finite ↔ InRange settings lines) ∧
      (Ordinary settings lines → report.Finite) ∧
      (report.record.HasNull ↔ ¬report.Finite) ∧
      (Csv.HasEmptyCell report.record ↔ ¬report.Finite) := by
  have hiff := finite_iff_inRange h
  refine ⟨hiff, ?_, report.hasNull_record_iff, report.hasEmptyCell_record_iff⟩
  intro hordinary
  exact hiff.mpr (inRange_of_ordinary hordinary)

/-- One transaction in a time that is too short to divide by. -/
def shortRun : List LogLine := [⟨"run.log", 1, "1 0.0 0.1 5 1"⟩]

def shortSettings : Settings := { logs := ["run.log"], duration := 1e-310 }

/-- A client whose mean latency is infinite. -/
def infiniteMean : List LogLine :=
  [⟨"run.log", 1, "[INFO] [client_main] [1697835459009552] Final statistics: throughput: 5 IOPS " ++
    "median latency: 3 us 99% latency: 4 us 99.9% latency: 5 us mean: inf."⟩]

def microbenchSettings : Settings := { logs := ["run.log"], inputKind := .microbench }

/-- Whether there is a report with a statistic that is not finite. -/
def reportsInfinite : Except Failure Report → Bool
  | .ok report => !decide report.Finite
  | .error _ => false

theorem of_reportsInfinite {result : Except Failure Report} (h : reportsInfinite result = true) :
    ∃ report, result = .ok report ∧ ¬report.Finite := by
  cases result with
  | ok report => exact ⟨report, rfl, by simpa [reportsInfinite] using h⟩
  | error failure => cases h

/-- Settings that pass every check, and a report with a statistic that is not finite: a rate over a very
    short time, or a mean over a client that has none. -/
theorem analyze_infinite_shortRun :
    (shortSettings.check = .ok () ∧
      ∃ report, analyze shortRun shortSettings = .ok report ∧ ¬report.Finite) ∧
    microbenchSettings.check = .ok () ∧
      ∃ report, analyze infiniteMean microbenchSettings = .ok report ∧ ¬report.Finite :=
  ⟨⟨by decide +kernel, of_reportsInfinite (by decide +kernel)⟩,
    by decide +kernel, of_reportsInfinite (by decide +kernel)⟩

theorem analyze_finite_iff_inRange_shortRun :
    ∃ report, analyze shortRun shortSettings = .ok report ∧
      ((report.Finite ↔ InRange shortSettings shortRun) ∧
        (Ordinary shortSettings shortRun → report.Finite) ∧
        (report.record.HasNull ↔ ¬report.Finite) ∧
        (Csv.HasEmptyCell report.record ↔ ¬report.Finite)) ∧ report.record.HasNull := by
  obtain ⟨report, hreport, infinite⟩ := of_reportsInfinite
    (by decide +kernel : reportsInfinite (analyze shortRun shortSettings) = true)
  exact ⟨report, hreport, analyze_finite_iff_inRange hreport, report.hasNull_record_iff.mpr infinite⟩

end Program

end BenchLog
