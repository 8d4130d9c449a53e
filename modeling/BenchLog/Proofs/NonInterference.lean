import BenchLog.Proofs.Correspondence
import BenchLog.Proofs.Failures

/-!
# What an analysis does not look at

Two runs of an analysis are compared step by step. They may differ in the kinds of work that are tracked, and
then they differ at most in the groupings of these kinds; or in lines that are entries of the same work, and
then they do not differ at all. Which failure a run ends with is compared as well, so that what is not looked
at decides neither about success nor about the cause of a failure.
-/

namespace BenchLog

namespace Loop.Relates

variable {α α' β β' ε ε' : Type} {E : ε → ε' → Prop} {V W : α → α' → Prop} {U : β → β' → Prop}

theorem imp {result : Except ε α} {result' : Except ε' α'} (h : Relates E V result result')
    (hvalue : ∀ a a', V a a' → W a a') : Relates E W result result' := by
  cases h with
  | ok h => exact .ok (hvalue _ _ h)
  | error h => exact .error h

/-- What is related to a value is one. -/
theorem exists_of_ok {a : α} {result' : Except ε' α'} (h : Relates E V (.ok a) result') :
    ∃ a', result' = .ok a' ∧ V a a' := by
  cases h with
  | ok h => exact ⟨_, rfl, h⟩

/-- Two runs that begin in the same way. -/
theorem bind_same (first : Except ε α) {next : α → Except ε β} {next' : α → Except ε β'}
    (hnext : ∀ a, Relates Eq U (next a) (next' a)) :
    Relates Eq U (first >>= next) (first >>= next') := by
  cases first with
  | ok a => exact hnext a
  | error e => exact .error rfl

end Loop.Relates

/-! ## The kinds that are tracked -/

/-- Whether a grouping is one of the kinds that are tracked. The other ones are by outcome alone. -/
def Grouping.byKind : Grouping → Bool
  | .follow => true
  | .tweet => true
  | _ => false

theorem Grouping.holds_congr {grouping : Grouping} (h : grouping.byKind = false)
    (tracked tracked' : Tracked) (entry : Entry) :
    grouping.holds tracked entry = grouping.holds tracked' entry := by
  cases grouping <;> first | rfl | cases h

namespace Tally

/-- The tallies differ at most in the groupings by kind. -/
structure SameByOutcome (tally other : Tally) : Prop where
  groups : ∀ grouping, grouping.byKind = false →
    tally.groups.get grouping = other.groups.get grouping
  extras : tally.extras = other.extras

variable {tally other : Tally}

theorem SameByOutcome.push (h : tally.SameByOutcome other) (latency : Nat)
    {member member' : Grouping → Bool} {extras : Sides Nat}
    (hmember : ∀ grouping, grouping.byKind = false → member grouping = member' grouping) :
    SameByOutcome ⟨Tally.push tally.groups latency member, extras⟩
      ⟨Tally.push other.groups latency member', extras⟩ := by
  refine ⟨?_, rfl⟩
  intro grouping hkind
  rw [get_push, get_push, hmember grouping hkind, h.groups grouping hkind]

theorem countAll_sameByOutcome (h : tally.SameByOutcome other) (line : LogLine) (entry : Entry) :
    Loop.Relates Eq SameByOutcome (tally.countAll line entry) (other.countAll line entry) := by
  rw [countAll, countAll, h.extras]
  apply Loop.Relates.bind_same
  intro sum
  exact .ok (h.push _ fun _ _ => rfl)

theorem countOutcome_sameByOutcome (h : tally.SameByOutcome other) (tracked tracked' : Tracked)
    (line : LogLine) (entry : Entry) :
    Loop.Relates Eq SameByOutcome (tally.countOutcome tracked line entry)
      (other.countOutcome tracked' line entry) := by
  have hmember (grouping : Grouping) (hkind : grouping.byKind = false) :
      (grouping != .all && grouping.holds tracked entry) =
        (grouping != .all && grouping.holds tracked' entry) := by
    rw [Grouping.holds_congr hkind tracked tracked' entry]
  rw [countOutcome, countOutcome, h.extras]
  split
  · apply Loop.Relates.bind_same
    intro sum
    exact .ok (h.push _ hmember)
  · apply Loop.Relates.bind_same
    intro sum
    exact .ok (h.push _ hmember)

theorem ofLines_sameByOutcome (tracked tracked' : Tracked) (window? : Option Window)
    (lines : List LogLine) :
    Loop.Relates Eq SameByOutcome (ofLines tracked window? lines) (ofLines tracked' window? lines) := by
  have hlines : List.Forall₂ Eq lines lines := List.forall₂_same.mpr fun _ _ => rfl
  refine Loop.Relates.foldlM hlines ?_ ⟨fun _ _ => rfl, rfl⟩
  intro tally other line _ h same
  subst same
  rw [recordLine_eq, recordLine_eq]
  apply Loop.Relates.bind_same
  intro entry
  split
  · apply (countAll_sameByOutcome h line entry).bind
    intro counted counted' hcounted
    exact countOutcome_sameByOutcome hcounted tracked tracked' line entry
  · exact .ok h

end Tally

namespace MergedTally

/-- The merged tallies differ at most in the groupings by kind. -/
structure SameByOutcome (tally other : MergedTally) : Prop where
  groups : ∀ grouping, grouping.byKind = false →
    tally.groups.get grouping = other.groups.get grouping
  extras : tally.extras = other.extras

theorem SameByOutcome.eq {tally other : MergedTally} (h : tally.SameByOutcome other) :
    other = { tally with
      groups.follow := other.groups.follow
      groups.tweet := other.groups.tweet } := by
  have hgroups : other.groups = { tally.groups with
      follow := other.groups.follow
      tweet := other.groups.tweet } := by
    apply Groups.ext_get
    intro grouping
    cases hkind : grouping.byKind with
    | true => cases grouping <;> first | rfl | cases hkind
    | false =>
        rw [← h.groups grouping hkind]
        cases grouping <;> first | rfl | cases hkind
  exact congrArg₂ MergedTally.mk hgroups h.extras.symm

theorem gather_sameByOutcome {parts parts' : List Tally}
    (h : List.Forall₂ Tally.SameByOutcome parts parts') {grouping : Grouping}
    (hkind : grouping.byKind = false) : gather parts grouping = gather parts' grouping := by
  induction h with
  | nil => rfl
  | cons hpart _ ih =>
      simp only [gather, List.flatMap_cons] at ih ⊢
      rw [ih, hpart.groups grouping hkind]

theorem merge_sameByOutcome {parts parts' : List Tally}
    (h : List.Forall₂ Tally.SameByOutcome parts parts') :
    Loop.Relates Eq SameByOutcome (merge parts) (merge parts') := by
  have hextras : parts.map Tally.extras = parts'.map Tally.extras := by
    rw [← List.forall₂_eq_eq_eq, List.forall₂_map_left_iff, List.forall₂_map_right_iff]
    exact h.imp fun _ _ => Tally.SameByOutcome.extras
  rw [merge, merge, hextras]
  apply Loop.Relates.bind_same
  intro extras
  refine .ok ⟨?_, rfl⟩
  intro grouping hkind
  rw [Groups.get_ofFn, Groups.get_ofFn, gather_sameByOutcome h hkind]

theorem ofParts_sameByOutcome (tracked tracked' : Tracked) (window? : Option Window)
    (parts : List (List LogLine)) :
    Loop.Relates Eq SameByOutcome (ofParts tracked window? parts)
      (ofParts tracked' window? parts) := by
  have hparts : List.Forall₂ Eq parts parts := List.forall₂_same.mpr fun _ _ => rfl
  rw [ofParts, ofParts]
  refine (Loop.Relates.mapM hparts ?_).bind fun _ _ => merge_sameByOutcome
  intro part _ same
  subst same
  exact Tally.ofLines_sameByOutcome tracked tracked' window? part

end MergedTally

namespace TransactionSummary

theorem ofTally_sameByOutcome {tally other : MergedTally} (h : tally.SameByOutcome other)
    (duration : Float) :
    Loop.Relates Eq (fun summary summary' => summary' = { summary with
        followMean := summary'.followMean
        tweetMean := summary'.tweetMean })
      (ofTally tally duration) (ofTally other duration) := by
  have hall : tally.groups.all = other.groups.all := h.groups .all rfl
  have hcommitted : tally.groups.committed = other.groups.committed := h.groups .committed rfl
  have haborted : tally.groups.aborted = other.groups.aborted := h.groups .aborted rfl
  have hcounts : Counts.ofTally tally = Counts.ofTally other := by
    have hwrite : tally.groups.writeAborted = other.groups.writeAborted := h.groups .writeAborted rfl
    have hread : tally.groups.readAborted = other.groups.readAborted := h.groups .readAborted rfl
    rw [Counts.ofTally, Counts.ofTally, hall, hcommitted, haborted, hwrite, hread]
  rw [ofTally, ofTally, hcounts, hall, hcommitted, haborted, h.extras]
  split
  · exact .error rfl
  · split
    · exact .error rfl
    · exact .ok rfl

/-! ## The duration -/

/-- Durations that can both divide a count make a difference to the throughputs and to nothing else. -/
theorem ofTally_duration (tally : MergedTally) {duration duration' : Float}
    (h : isDuration duration = true) (h' : isDuration duration' = true) :
    Loop.Relates Eq (fun summary summary' => summary' = { summary with
        throughput := summary'.throughput })
      (ofTally tally duration) (ofTally tally duration') := by
  rw [ofTally, ofTally, h, h']
  by_cases hempty : tally.groups.all.isEmpty = true
  · simp only [hempty, Bool.not_true, Bool.false_eq_true, if_false, if_true]
    exact .error rfl
  · simp only [hempty, Bool.not_true, Bool.false_eq_true, if_false]
    exact .ok rfl

end TransactionSummary

/-! ## Lines of the same work -/

/-- The entries are counted in the same way: only the number of the transaction and its times may differ. -/
structure Entry.SameWork (entry other : Entry) : Prop where
  latency : entry.latency = other.latency
  outcome : entry.outcome = other.outcome
  kind : entry.kind = other.kind
  extra : entry.extra = other.extra

/-- Both lines are entries, of the same work, and if it matters their ends are related. -/
def Interchangeable (timed : Bool) (T : Float → Float → Prop) (line other : LogLine) : Prop :=
  ∃ entry entry', Entry.ofLine line = .ok entry ∧ Entry.ofLine other = .ok entry' ∧
    entry.SameWork entry' ∧ (timed = true → T entry.finish entry'.finish)

namespace Window

/-- What an analysis does with times does not tell related ones apart: they compare alike, and what is made
    of them is related again. -/
structure Indistinct (T : Float → Float → Prop) : Prop where
  alike : ∀ {a a'}, T a a' → FloatOrder.Alike a a'
  smaller : ∀ {a a' b b'}, T a a' → T b b' → T (smaller a b) (smaller a' b')
  add : ∀ {a a'}, T a a' → ∀ b, T (a + b) (a' + b)

theorem indistinct_eq : Indistinct Eq where
  alike same := same ▸ FloatOrder.Alike.refl _
  smaller same same' := by rw [same, same']
  add same _ := by rw [same]

theorem indistinct_alike : Indistinct FloatOrder.Alike where
  alike h := h
  add h b := h.add b
  smaller {a a' b b'} h h' := by
    have hlt : a < b ↔ a' < b' := by
      rw [FloatOrder.lt_iff, FloatOrder.lt_iff, h.1, h.2, h'.1, h'.2]
    rw [BenchLog.smaller, BenchLog.smaller, h'.1]
    by_cases hnan : b'.isNaN = true
    · rwa [if_pos hnan, if_pos hnan]
    · rw [if_neg hnan, if_neg hnan]
      by_cases hless : a < b
      · rwa [if_pos hless, if_pos (hlt.mp hless)]
      · rwa [if_neg hless, if_neg (mt hlt.mpr hless)]

/-- The windows are there because ends matter, and their own ends are related. -/
structure Related (timed : Bool) (T : Float → Float → Prop) (window other : Window) : Prop where
  timed : timed = true
  start : T window.start other.start
  stop : T window.stop other.stop

theorem eq_of_related {window? other? : Option Window} {timed : Bool}
    (h : Option.Rel (Related timed Eq) window? other?) : window? = other? := by
  cases h with
  | none => rfl
  | some h => exact congrArg some (congrArg₂ Window.mk h.start h.stop)

theorem alike_of_related {window? other? : Option Window} {timed : Bool}
    (h : Option.Rel (Related timed FloatOrder.Alike) window? other?) :
    Option.Rel Alike window? other? := by
  cases h with
  | none => exact .none
  | some h => exact .some ⟨h.start, h.stop⟩

end Window

section

variable {T : Float → Float → Prop} {timed : Bool} {R : LogLine → LogLine → Prop}
  {lines lines' : List LogLine} {parts parts' : List (List LogLine)}

/-! ### Reading -/

theorem Entry.ofLine_relates {line line' : LogLine} (h : Interchangeable timed T line line') :
    Loop.Relates (Failure.Corresponds R)
      (fun entry entry' => entry.SameWork entry' ∧ (timed = true → T entry.finish entry'.finish))
      (ofLine line) (ofLine line') := by
  obtain ⟨entry, entry', hline, hline', same, related⟩ := h
  rw [hline, hline']
  exact .ok ⟨same, related⟩

/-! ### The first pass -/

namespace Window

theorem least_relates (hT : Indistinct T) {found? found'? : Option Float} {time time' : Float}
    (hfound : Option.Rel T found? found'?) (h : T time time') :
    T (least found? time) (least found'? time') := by
  cases hfound with
  | none => exact h
  | some hfound => exact hT.smaller hfound h

theorem earliestIn_relates (hT : Indistinct T)
    (h : List.Forall₂ (Interchangeable true T) lines lines') :
    Loop.Relates (Failure.Corresponds R) (Option.Rel T) (earliestIn lines) (earliestIn lines') := by
  refine Loop.Relates.foldlM h ?_ .none
  intro found? found'? line line' hfound hline
  apply (Entry.ofLine_relates hline).bind
  intro entry entry' hentry
  exact .ok (.some (least_relates hT hfound (hentry.2 rfl)))

/-- The parts in which something was found, and what is the least there. -/
theorem foldl_least_relates (hT : Indistinct T) {found found' : List (Option Float)}
    (h : List.Forall₂ (Option.Rel T) found found') {start? start'? : Option Float}
    (hstart : Option.Rel T start? start'?) :
    Option.Rel T
      ((found.filterMap id).foldl (fun found? time => some (least found? time)) start?)
      ((found'.filterMap id).foldl (fun found? time => some (least found? time)) start'?) := by
  induction h generalizing start? start'? with
  | nil => exact hstart
  | cons hfirst _ ih =>
      cases hfirst with
      | none => exact ih hstart
      | some hfirst => exact ih (.some (least_relates hT hstart hfirst))

theorem earliestEnd_relates (hT : Indistinct T)
    (h : List.Forall₂ (List.Forall₂ (Interchangeable true T)) parts parts') :
    Loop.Relates (Failure.Corresponds R) T (earliestEnd parts) (earliestEnd parts') := by
  rw [earliestEnd, earliestEnd]
  apply (Loop.Relates.mapM h fun _ _ => earliestIn_relates hT).bind
  intro found found' hfound
  have hleast := foldl_least_relates hT hfound .none
  generalize (found.filterMap id).foldl _ none = least? at hleast ⊢
  generalize (found'.filterMap id).foldl _ none = least'? at hleast ⊢
  cases hleast with
  | none => exact .error .noInput
  | some hleast => exact .ok hleast

theorem admits_congr (hT : Indistinct T) {window? window'? : Option Window}
    (hwindow : Option.Rel (Related timed T) window? window'?) {entry entry' : Entry}
    (h : timed = true → T entry.finish entry'.finish) :
    admits window? entry = admits window'? entry' := by
  cases hwindow with
  | none => rfl
  | @some window window' hwindow =>
      have hfinish := hT.alike (h hwindow.timed)
      have hstart : window.start ≤ entry.finish ↔ window'.start ≤ entry'.finish :=
        (hT.alike hwindow.start).le_iff_left.trans hfinish.le_iff_right
      have hstop : entry.finish ≤ window.stop ↔ entry'.finish ≤ window'.stop :=
        hfinish.le_iff_left.trans (hT.alike hwindow.stop).le_iff_right
      simp only [admits, Option.all_some, contains, hstart, hstop]

end Window

/-! ### The tally -/

namespace Tally

variable {entry entry' : Entry}

theorem countAll_congr (h : entry.SameWork entry') (line : LogLine) (tally : Tally) :
    tally.countAll line entry = tally.countAll line entry' := by
  rw [countAll, countAll, h.extra, h.latency]

theorem countOutcome_congr (h : entry.SameWork entry') (tracked : Tracked) (line : LogLine)
    (tally : Tally) :
    tally.countOutcome tracked line entry = tally.countOutcome tracked line entry' := by
  have hholds (grouping : Grouping) :
      grouping.holds tracked entry = grouping.holds tracked entry' := by
    cases grouping <;> simp only [Grouping.holds, h.outcome, h.kind]
  simp only [countOutcome, h.outcome, h.extra, h.latency, hholds]

theorem ofLines_relates (hT : Window.Indistinct T) (tracked : Tracked)
    {window? window'? : Option Window}
    (hwindow : Option.Rel (Window.Related timed T) window? window'?)
    (h : List.Forall₂ (Interchangeable timed T) lines lines') :
    AlikeUpTo (Interchangeable timed T) (ofLines tracked window? lines)
      (ofLines tracked window'? lines') := by
  refine Loop.Relates.foldlM h ?_ rfl
  intro tally other line line' same hline
  subst same
  rw [recordLine_eq, recordLine_eq]
  apply (Entry.ofLine_relates hline).bind
  intro entry entry' hentry
  rw [Window.admits_congr hT hwindow hentry.2]
  split
  · rw [countAll_congr hentry.1]
    apply (countAll_alike hline entry' tally).bind
    intro counted
    rw [countOutcome_congr hentry.1]
    exact countOutcome_alike hline tracked entry' counted
  · exact .ok rfl

end Tally

theorem MergedTally.ofParts_relates (hT : Window.Indistinct T) (tracked : Tracked)
    {window? window'? : Option Window}
    (hwindow : Option.Rel (Window.Related timed T) window? window'?)
    (h : List.Forall₂ (List.Forall₂ (Interchangeable timed T)) parts parts') :
    AlikeUpTo (Interchangeable timed T) (ofParts tracked window? parts)
      (ofParts tracked window'? parts') := by
  have htallies := Loop.Relates.mapM h fun _ _ => Tally.ofLines_relates hT tracked hwindow
  rw [List.forall₂_eq_eq_eq] at htallies
  rw [ofParts, ofParts]
  exact AlikeUpTo.bind htallies merge_alike

end

namespace Analysis

variable {settings : Settings} {lines lines' : List LogLine} {T : Float → Float → Prop}

/-! ## Whole runs -/

theorem windowOf_relates {parts parts' : List (List LogLine)} {R : LogLine → LogLine → Prop}
    (hT : Window.Indistinct T)
    (h : List.Forall₂ (List.Forall₂ (Interchangeable settings.window T)) parts parts') :
    Loop.Relates (Failure.Corresponds R) (Option.Rel (Window.Related settings.window T))
      (windowOf settings parts) (windowOf settings parts') := by
  rw [windowOf, windowOf]
  by_cases hwindow : settings.window = true
  · rw [hwindow] at h ⊢
    rw [if_pos rfl, if_pos rfl]
    apply (Window.earliestEnd_relates hT h).bind
    intro first first' hfirst
    have hstart := hT.add hfirst settings.warmup
    exact .ok (.some ⟨rfl, hstart, hT.add hstart settings.duration⟩)
  · rw [if_neg hwindow, if_neg hwindow]
    exact .ok .none

theorem ofLines_relates (hT : Window.Indistinct T)
    (h : List.Forall₂ (Interchangeable settings.window T) lines lines') :
    Loop.Relates (Failure.Corresponds (Interchangeable settings.window T))
      (fun analysis other => analysis.summary = other.summary ∧ analysis.tally = other.tally ∧
        Option.Rel (Window.Related settings.window T) analysis.window other.window)
      (ofLines lines settings) (ofLines lines' settings) := by
  have hparts : List.Forall₂ (List.Forall₂ (Interchangeable settings.window T))
      (parts lines settings.workers) (parts lines' settings.workers) := by
    rw [parts, parts, h.length_eq]
    exact forall₂_slices h _
  rw [ofLines, ofLines, isEmpty_eq_of_forall₂ h]
  split
  · exact .error .noInput
  · apply (windowOf_relates hT hparts).bind
    intro window? window'? hwindow
    apply Loop.Relates.bind (MergedTally.ofParts_relates hT settings.tracked hwindow hparts)
    intro tally other same
    subst same
    apply Loop.Relates.bind (TransactionSummary.ofTally_alike tally settings.duration)
    intro summary summary' same
    exact .ok ⟨same, rfl, hwindow⟩

/-- Without a window there is no first pass, and the summary and the tally are all there is. -/
theorem ofLines_without_window (settings : Settings) (hwindow : settings.window = false)
    (lines : List LogLine) :
    ofLines lines settings = (do
      if lines.isEmpty then throw .noInput
      let tally ← MergedTally.ofParts settings.tracked none (parts lines settings.workers)
      let summary ← TransactionSummary.ofTally tally settings.duration
      return { summary, tally, window := none }) := by
  rw [ofLines]
  simp only [windowOf, hwindow, Bool.false_eq_true, if_false]
  rfl

/-- The analyses differ at most in the throughputs. -/
def SameButThroughput (analysis other : Analysis) : Prop :=
  other = { analysis with summary.throughput := other.summary.throughput }

/-- The analyses differ at most in the groupings of the kinds that are tracked and in their means. -/
def SameButTracked (analysis other : Analysis) : Prop :=
  other = { analysis with
    summary.followMean := other.summary.followMean
    summary.tweetMean := other.summary.tweetMean
    tally.groups.follow := other.tally.groups.follow
    tally.groups.tweet := other.tally.groups.tweet }

/-- Without a window the duration is of no use but to divide the counts. -/
theorem ofLines_duration (hwindow : settings.window = false) {duration : Float}
    (h : isDuration settings.duration = true) (h' : isDuration duration = true) :
    Loop.Relates Eq SameButThroughput (ofLines lines settings)
      (ofLines lines { settings with duration := duration }) := by
  rw [ofLines_without_window settings hwindow,
    ofLines_without_window { settings with duration := duration } hwindow]
  split
  · exact .error rfl
  · apply Loop.Relates.bind_same
    intro tally
    apply (TransactionSummary.ofTally_duration tally h h').bind
    intro summary summary' hsummary
    refine .ok ?_
    rw [SameButThroughput, Analysis.mk.injEq]
    exact ⟨hsummary, rfl, rfl⟩

/-- The kinds that are tracked decide about nothing but their own groupings. -/
theorem ofLines_tracked (tracked : Tracked) :
    Loop.Relates Eq SameButTracked (ofLines lines settings)
      (ofLines lines { settings with tracked := tracked }) := by
  rw [ofLines, ofLines]
  split
  · exact .error rfl
  · apply Loop.Relates.bind_same
    intro window?
    apply (MergedTally.ofParts_sameByOutcome settings.tracked tracked window? _).bind
    intro tally other hsame
    apply (TransactionSummary.ofTally_sameByOutcome hsame settings.duration).bind
    intro summary summary' hsummary
    refine .ok ?_
    rw [SameButTracked, Analysis.mk.injEq]
    exact ⟨hsummary, hsame.eq, rfl⟩

/-- An analysis does not notice what it has no use for. Without a window, neither the warmup nor the settings
    for reading and writing make any difference; two durations that can divide a count lead to the same
    success or failure and differ at most in the throughputs. The kinds that are tracked decide about nothing
    but their own groupings and means. Lines that are entries of the same work, and with a window of the same
    ends, can stand for each other: the results are the same, and failures name corresponding lines. If the
    ends are only equal as numbers, so are those of the windows, and the rest is the same. -/
theorem ofLines_noninterference (lines : List LogLine) (settings : Settings) :
    (settings.window = false → ∀ warmup logs inputKind format output,
      ofLines lines { settings with warmup, logs, inputKind, format, output } =
        ofLines lines settings) ∧
    (settings.window = false → ∀ duration,
      settings.duration.isFinite = true ∧ 0 < settings.duration →
      duration.isFinite = true ∧ 0 < duration →
      Loop.Relates Eq SameButThroughput (ofLines lines settings)
        (ofLines lines { settings with duration })) ∧
    (∀ tracked, Loop.Relates Eq SameButTracked (ofLines lines settings)
      (ofLines lines { settings with tracked })) ∧
    (∀ lines', List.Forall₂ (Interchangeable settings.window Eq) lines lines' →
      AlikeUpTo (Interchangeable settings.window Eq) (ofLines lines settings)
        (ofLines lines' settings)) ∧
    ∀ lines', List.Forall₂ (Interchangeable settings.window FloatOrder.Alike) lines lines' →
      Loop.Relates (Failure.Corresponds (Interchangeable settings.window FloatOrder.Alike))
        (fun analysis other => analysis.summary = other.summary ∧ analysis.tally = other.tally ∧
          Option.Rel Window.Alike analysis.window other.window)
        (ofLines lines settings) (ofLines lines' settings) := by
  refine ⟨?_, ?_, ofLines_tracked, ?_, ?_⟩
  · intro hwindow warmup logs inputKind format output
    have hother := ofLines_without_window
      { settings with warmup, logs, inputKind, format, output } hwindow lines
    exact hother.trans (ofLines_without_window settings hwindow lines).symm
  · intro hwindow duration h h'
    exact ofLines_duration hwindow (isDuration_iff.mpr h) (isDuration_iff.mpr h')
  · intro lines' h
    apply (ofLines_relates Window.indistinct_eq h).imp
    intro analysis other hsame
    obtain ⟨hsummary, htally, hwindow⟩ := hsame
    obtain ⟨summary, tally, window⟩ := analysis
    obtain ⟨summary', tally', window'⟩ := other
    rw [Analysis.mk.injEq]
    exact ⟨hsummary, htally, Window.eq_of_related hwindow⟩
  · intro lines' h
    apply (ofLines_relates Window.indistinct_alike h).imp
    intro analysis other hsame
    obtain ⟨hsummary, htally, hwindow⟩ := hsame
    exact ⟨hsummary, htally, Window.alike_of_related hwindow⟩

/-- A committed transaction of a kind that is tracked, and an aborted one. -/
def recorded : List LogLine :=
  [⟨"run.log", 1, "1 0.0 1.0 10 1 2 4"⟩, ⟨"run.log", 2, "2 0.5 0.0 30 2"⟩]

/-- The same work at other times. -/
def postponed : List LogLine :=
  [⟨"late.log", 8, "77 7.25 9.5 10 1 2 4"⟩, ⟨"late.log", 9, "+5 nan inf 30 2 -1 0"⟩]

/-- The same work, and the ends are the same numbers. -/
def renumbered : List LogLine :=
  [⟨"run.log", 1, "8 0.5 10e-1 10 1 2 4"⟩, ⟨"run.log", 2, "9 0.5 -0.0 30 2"⟩]

theorem ofLines_noninterference_recorded :
    (∃ analysis, ofLines recorded { duration := 2 } = .ok analysis ∧
      ofLines recorded
          { duration := 2, warmup := 7, logs := ["run.log"], inputKind := .microbench, format := .csv,
            output := some "run.csv" } = .ok analysis ∧
      (∃ other, ofLines recorded { duration := 3 } = .ok other ∧ SameButThroughput analysis other) ∧
      (∃ other, ofLines recorded { duration := 2, tracked := ⟨7, 2⟩ } = .ok other ∧
        SameButTracked analysis other) ∧
      ofLines postponed { duration := 2 } = .ok analysis) ∧
    ∃ analysis other,
      ofLines recorded { duration := 2, warmup := 0, window := true } = .ok analysis ∧
      ofLines renumbered { duration := 2, warmup := 0, window := true } = .ok other ∧
      analysis.summary = other.summary ∧ analysis.tally = other.tally := by
  have hwork : List.Forall₂ (Interchangeable false Eq) recorded postponed := by
    have hfirst : Interchangeable false Eq ⟨"run.log", 1, "1 0.0 1.0 10 1 2 4"⟩
        ⟨"late.log", 8, "77 7.25 9.5 10 1 2 4"⟩ :=
      ⟨⟨1, 0, 1, 10, .committed, 2, 4⟩, ⟨77, 7.25, 9.5, 10, .committed, 2, 4⟩, by decide +kernel,
        by decide +kernel, ⟨rfl, rfl, rfl, rfl⟩, nofun⟩
    have hsecond : Interchangeable false Eq ⟨"run.log", 2, "2 0.5 0.0 30 2"⟩
        ⟨"late.log", 9, "+5 nan inf 30 2 -1 0"⟩ :=
      ⟨⟨2, 0.5, 0, 30, .writeAborted, -1, 0⟩, ⟨5, 0 / 0, 1 / 0, 30, .writeAborted, -1, 0⟩,
        by decide +kernel, by decide +kernel, ⟨rfl, rfl, rfl, rfl⟩, nofun⟩
    exact .cons hfirst (.cons hsecond .nil)
  have hends : List.Forall₂ (Interchangeable true FloatOrder.Alike) recorded renumbered := by
    have hfirst : Interchangeable true FloatOrder.Alike ⟨"run.log", 1, "1 0.0 1.0 10 1 2 4"⟩
        ⟨"run.log", 1, "8 0.5 10e-1 10 1 2 4"⟩ :=
      ⟨⟨1, 0, 1, 10, .committed, 2, 4⟩, ⟨8, 0.5, 1, 10, .committed, 2, 4⟩, by decide +kernel,
        by decide +kernel, ⟨rfl, rfl, rfl, rfl⟩, fun _ => .refl _⟩
    have hzeros : FloatOrder.Alike 0 (-0.0) := .of_le_of_le (by decide +kernel) (by decide +kernel)
    have hsecond : Interchangeable true FloatOrder.Alike ⟨"run.log", 2, "2 0.5 0.0 30 2"⟩
        ⟨"run.log", 2, "9 0.5 -0.0 30 2"⟩ :=
      ⟨⟨2, 0.5, 0, 30, .writeAborted, -1, 0⟩, ⟨9, 0.5, -0.0, 30, .writeAborted, -1, 0⟩,
        by decide +kernel, by decide +kernel, ⟨rfl, rfl, rfl, rfl⟩, fun _ => hzeros⟩
    exact .cons hfirst (.cons hsecond .nil)
  have hpositive : (2 : Float).isFinite = true ∧ 0 < (2 : Float) := by decide +kernel
  have hother : (3 : Float).isFinite = true ∧ 0 < (3 : Float) := by decide +kernel
  have hok (settings : Settings) (h : (ofLines recorded settings).isOk = true) := Loop.isOk_iff.mp h
  refine ⟨?_, ?_⟩
  · obtain ⟨hsettings, hduration, htracked, hlines, -⟩ :=
      ofLines_noninterference recorded { duration := 2 }
    obtain ⟨analysis, hanalysis⟩ := hok { duration := 2 } (by decide +kernel)
    rw [hanalysis] at hsettings hduration htracked hlines
    have hpostponed := (hlines postponed hwork).exists_of_ok
    obtain ⟨other, hpostponed, same⟩ := hpostponed
    subst same
    exact ⟨analysis, hanalysis, hsettings rfl 7 ["run.log"] .microbench .csv (some "run.csv"),
      (hduration rfl 3 hpositive hother).exists_of_ok, (htracked ⟨7, 2⟩).exists_of_ok, hpostponed⟩
  · obtain ⟨-, -, -, -, hnumbers⟩ :=
      ofLines_noninterference recorded { duration := 2, warmup := 0, window := true }
    obtain ⟨analysis, hanalysis⟩ :=
      hok { duration := 2, warmup := 0, window := true } (by decide +kernel)
    rw [hanalysis] at hnumbers
    obtain ⟨other, hrenumbered, hsummary, htally, -⟩ := (hnumbers renumbered hends).exists_of_ok
    exact ⟨analysis, other, hanalysis, hrenumbered, hsummary, htally⟩

end Analysis

end BenchLog
