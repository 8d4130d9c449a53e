import BenchLog.Analysis
import BenchLog.Microbench
import BenchLog.Proofs.Loop
import BenchLog.Proofs.Partition

/-!
# Analyses of corresponding lines

An analysis looks at the words of its lines, a summary of clients at their texts; where a line stands is
only of use in a failure. So if two lists of lines correspond line by line, both runs end with the same
value, or they fail in the same way at corresponding lines (`Analysis.ofLines_alike`,
`MicrobenchSummary.ofLines_alike`).
-/

namespace BenchLog

namespace Loop

variable {α α' β β' σ ε ε' : Type}

/-- Both results are values that are related, or both are errors that are. -/
inductive Relates (E : ε → ε' → Prop) (V : α → α' → Prop) : Except ε α → Except ε' α' → Prop where
  | ok {a : α} {a' : α'} (h : V a a') : Relates E V (.ok a) (.ok a')
  | error {e : ε} {e' : ε'} (h : E e e') : Relates E V (.error e) (.error e')

namespace Relates

variable {E : ε → ε' → Prop} {V : α → α' → Prop} {W : β → β' → Prop} {R : σ → σ → Prop}

theorem bind {first : Except ε α} {first' : Except ε' α'} {next : α → Except ε β}
    {next' : α' → Except ε' β'} (h : Relates E V first first')
    (hnext : ∀ a a', V a a' → Relates E W (next a) (next' a')) :
    Relates E W (first >>= next) (first' >>= next') := by
  cases h with
  | ok h => exact hnext _ _ h
  | error h => exact .error h

theorem mapM {items items' : List σ} {read : σ → Except ε α} {read' : σ → Except ε' α'}
    (h : List.Forall₂ R items items') (hread : ∀ s s', R s s' → Relates E V (read s) (read' s')) :
    Relates E (List.Forall₂ V) (items.mapM read) (items'.mapM read') := by
  induction h with
  | nil => exact .ok .nil
  | cons hitem _ ih =>
      rw [List.mapM_cons, List.mapM_cons]
      apply (hread _ _ hitem).bind
      intro a a' hvalue
      apply ih.bind
      intro results results' hvalues
      exact .ok (.cons hvalue hvalues)

/-- Two loops whose steps keep their states related end with related states. -/
theorem foldlM {items items' : List σ} {step : α → σ → Except ε α} {step' : α' → σ → Except ε' α'}
    (h : List.Forall₂ R items items')
    (hstep : ∀ a a' s s', V a a' → R s s' → Relates E V (step a s) (step' a' s'))
    {start : α} {start' : α'} (hstart : V start start') :
    Relates E V (items.foldlM step start) (items'.foldlM step' start') := by
  induction h generalizing start start' with
  | nil => exact .ok hstart
  | cons hitem _ ih =>
      rw [List.foldlM_cons, List.foldlM_cons]
      exact (hstep _ _ _ _ hstart hitem).bind fun a a' hvalue => ih hvalue

end Relates

end Loop

/-- The failures are of the same kind and have the same cause, at corresponding lines if it lies in a
    line. -/
inductive Failure.Corresponds (R : LogLine → LogLine → Prop) : Failure → Failure → Prop where
  | malformed {line line' : LogLine} (h : R line line') (reason : Reason) :
      Corresponds R (.malformed line reason) (.malformed line' reason)
  | noInput : Corresponds R .noInput .noInput
  | noTransactions : Corresponds R .noTransactions .noTransactions
  | overflow {line line' : LogLine} (h : R line line') (counter : Counter) :
      Corresponds R (.overflow counter line.origin) (.overflow counter line'.origin)
  | mergeOverflow (counter : Counter) :
      Corresponds R (.overflow counter .merge) (.overflow counter .merge)
  | badDuration (seconds : Float) : Corresponds R (.badDuration seconds) (.badDuration seconds)

/-- Both runs yield the same value, or they fail in the same way at corresponding lines. -/
abbrev AlikeUpTo {α : Type} (R : LogLine → LogLine → Prop) : Except Failure α → Except Failure α → Prop :=
  Loop.Relates (Failure.Corresponds R) Eq

section

variable {α β : Type} {R : LogLine → LogLine → Prop}

theorem AlikeUpTo.bind {first first' : Except Failure α} {next next' : α → Except Failure β}
    (h : AlikeUpTo R first first') (hnext : ∀ a, AlikeUpTo R (next a) (next' a)) :
    AlikeUpTo R (first >>= next) (first' >>= next') := by
  apply Loop.Relates.bind h
  rintro a _ rfl
  exact hnext a

theorem AlikeUpTo.mapM {items items' : List β} {S : β → β → Prop} {read : β → Except Failure α}
    (h : List.Forall₂ S items items') (hread : ∀ b b', S b b' → AlikeUpTo R (read b) (read b')) :
    AlikeUpTo R (items.mapM read) (items'.mapM read) := by
  have hresults := Loop.Relates.mapM h hread
  rwa [List.forall₂_eq_eq_eq] at hresults

theorem AlikeUpTo.foldlM {items items' : List β} {S : β → β → Prop} {step : α → β → Except Failure α}
    (h : List.Forall₂ S items items')
    (hstep : ∀ a b b', S b b' → AlikeUpTo R (step a b) (step a b')) (start : α) :
    AlikeUpTo R (items.foldlM step start) (items'.foldlM step start) := by
  refine Loop.Relates.foldlM h ?_ rfl
  rintro a _ b b' rfl hitem
  exact hstep a b b' hitem

theorem isEmpty_eq_of_forall₂ {items items' : List β} {S : β → β → Prop}
    (h : List.Forall₂ S items items') : items.isEmpty = items'.isEmpty := by
  cases h <;> rfl

theorem forall₂_slices {lines lines' : List LogLine} (h : List.Forall₂ R lines lines')
    (workers : Nat) :
    List.Forall₂ (List.Forall₂ R) (slices lines workers) (slices lines' workers) := by
  rw [slices_eq, slices_eq, h.length_eq]
  refine List.forall₂_map_left_iff.mpr (List.forall₂_map_right_iff.mpr (List.forall₂_same.mpr ?_))
  intro index _
  exact List.forall₂_take _ (List.forall₂_drop _ h)

/-! ## Counting -/

theorem Counter.add_alike {line line' : LogLine} (h : R line line') (counter : Counter)
    (total amount : Nat) :
    AlikeUpTo R (counter.add line.origin total amount) (counter.add line'.origin total amount) := by
  rw [Counter.add, Counter.add]
  split
  · exact .ok rfl
  · exact .error (.overflow h counter)

theorem Counter.add_merge_alike (counter : Counter) (total amount : Nat) :
    AlikeUpTo R (counter.add .merge total amount) (counter.add .merge total amount) := by
  rw [Counter.add]
  split
  · exact .ok rfl
  · exact .error (.mergeOverflow counter)

namespace Tally

variable {line line' : LogLine}

theorem countAll_alike (h : R line line') (entry : Entry) (tally : Tally) :
    AlikeUpTo R (tally.countAll line entry) (tally.countAll line' entry) := by
  rw [countAll, countAll]
  exact (Counter.add_alike h _ _ _).bind fun _ => .ok rfl

theorem countOutcome_alike (h : R line line') (tracked : Tracked) (entry : Entry) (tally : Tally) :
    AlikeUpTo R (tally.countOutcome tracked line entry) (tally.countOutcome tracked line' entry) := by
  rw [countOutcome, countOutcome]
  split
  · exact (Counter.add_alike h _ _ _).bind fun _ => .ok rfl
  · exact (Counter.add_alike h _ _ _).bind fun _ => .ok rfl

/-- The two counts of an entry, one after the other. What was counted before a failure is dropped. -/
theorem recordLine_eq (tracked : Tracked) (window? : Option Window) (tally : Tally) (line : LogLine) :
    recordLine tracked window? tally line = (do
      let entry ← Entry.ofLine line
      if Window.admits window? entry then
        let counted ← tally.countAll line entry
        counted.countOutcome tracked line entry
      else
        return tally) := by
  rw [recordLine]
  cases Entry.ofLine line with
  | error failure => rfl
  | ok entry =>
      simp only [Loop.ok_bind, record]
      cases tally.countAll line entry with
      | error failure => rfl
      | ok counted =>
          simp only [Loop.ok_bind]
          cases counted.countOutcome tracked line entry <;> rfl

end Tally

theorem TransactionSummary.ofTally_alike (tally : MergedTally) (duration : Float) :
    AlikeUpTo R (ofTally tally duration) (ofTally tally duration) := by
  rw [ofTally]
  split
  · exact .error (.badDuration duration)
  · split
    · exact .error .noTransactions
    · exact .ok rfl

theorem MergedTally.merge_alike (parts : List Tally) : AlikeUpTo R (merge parts) (merge parts) := by
  rw [merge]
  refine (AlikeUpTo.foldlM (List.forall₂_same.mpr fun _ _ => rfl) ?_ _).bind fun _ => .ok rfl
  rintro total part _ rfl
  rw [addExtras]
  apply (Counter.add_merge_alike _ _ _).bind
  intro all
  apply (Counter.add_merge_alike _ _ _).bind
  intro committed
  apply (Counter.add_merge_alike _ _ _).bind
  intro aborted
  exact .ok rfl

end

/-! ## Transactions -/

section

variable {R : LogLine → LogLine → Prop} {lines lines' : List LogLine}
  (hwords : ∀ line line', R line line' →
    Text.words line.text.toList = Text.words line'.text.toList)

include hwords

theorem Entry.ofLine_alike {line line' : LogLine} (h : R line line') :
    AlikeUpTo R (Entry.ofLine line) (Entry.ofLine line') := by
  rw [Entry.ofLine, Entry.ofLine, hwords line line' h]
  cases ofWords (Text.words line'.text.toList) with
  | ok entry => exact .ok rfl
  | error reason => exact .error (.malformed h reason)

theorem Tally.ofLines_alike (h : List.Forall₂ R lines lines') (tracked : Tracked)
    (window? : Option Window) :
    AlikeUpTo R (Tally.ofLines tracked window? lines) (Tally.ofLines tracked window? lines') := by
  refine AlikeUpTo.foldlM h ?_ _
  intro tally line line' hline
  rw [recordLine_eq, recordLine_eq]
  apply (Entry.ofLine_alike hwords hline).bind
  intro entry
  split
  · exact (countAll_alike hline entry tally).bind (countOutcome_alike hline tracked entry)
  · exact .ok rfl

theorem Window.earliestIn_alike (h : List.Forall₂ R lines lines') :
    AlikeUpTo R (Window.earliestIn lines) (Window.earliestIn lines') := by
  refine AlikeUpTo.foldlM h ?_ _
  intro found? line line' hline
  exact (Entry.ofLine_alike hwords hline).bind fun _ => .ok rfl

theorem Window.earliestEnd_alike {parts parts' : List (List LogLine)}
    (h : List.Forall₂ (List.Forall₂ R) parts parts') :
    AlikeUpTo R (Window.earliestEnd parts) (Window.earliestEnd parts') := by
  rw [earliestEnd, earliestEnd]
  apply (AlikeUpTo.mapM h fun _ _ => earliestIn_alike hwords).bind
  intro found
  split
  · exact .ok rfl
  · exact .error .noInput

theorem MergedTally.ofParts_alike {parts parts' : List (List LogLine)}
    (h : List.Forall₂ (List.Forall₂ R) parts parts') (tracked : Tracked) (window? : Option Window) :
    AlikeUpTo R (ofParts tracked window? parts) (ofParts tracked window? parts') := by
  rw [ofParts, ofParts]
  apply (AlikeUpTo.mapM h fun _ _ hpart => Tally.ofLines_alike hwords hpart tracked window?).bind
  exact merge_alike

/-- An analysis looks at nothing but the words of the lines, a failure apart. -/
theorem Analysis.ofLines_alike (h : List.Forall₂ R lines lines') (settings : Settings) :
    AlikeUpTo R (ofLines lines settings) (ofLines lines' settings) := by
  have hparts : List.Forall₂ (List.Forall₂ R) (parts lines settings.workers)
      (parts lines' settings.workers) := by
    rw [parts, parts, h.length_eq]
    exact forall₂_slices h _
  have hwindow : AlikeUpTo R (windowOf settings (parts lines settings.workers))
      (windowOf settings (parts lines' settings.workers)) := by
    rw [windowOf, windowOf]
    split
    · exact (Window.earliestEnd_alike hwords hparts).bind fun _ => .ok rfl
    · exact .ok rfl
  rw [ofLines, ofLines, isEmpty_eq_of_forall₂ h]
  split
  · exact .error .noInput
  · apply hwindow.bind
    intro window?
    apply (MergedTally.ofParts_alike hwords hparts settings.tracked window?).bind
    intro tally
    exact (TransactionSummary.ofTally_alike tally settings.duration).bind fun _ => .ok rfl

end

/-! ## Clients -/

section

variable {R : LogLine → LogLine → Prop} {lines lines' : List LogLine}
  (htext : ∀ line line', R line line' → line.text = line'.text)

include htext

theorem ClientSummary.ofLine_alike {line line' : LogLine} (h : R line line') :
    AlikeUpTo R (ClientSummary.ofLine line) (ClientSummary.ofLine line') := by
  rw [ofLine, ofLine, htext line line' h]
  cases ofWords (Text.words (dropStop line'.text.toList)) with
  | ok client => exact .ok rfl
  | error reason => exact .error (.malformed h reason)

/-- A client keeps the line where it stands, for the failure of a sum. -/
theorem MicrobenchSummary.readClient_relates {line line' : LogLine} (h : R line line') :
    Loop.Relates (Failure.Corresponds R)
      (fun client client' => R client.1 client'.1 ∧ client.2 = client'.2)
      (readClient line) (readClient line') := by
  rw [readClient, readClient]
  apply Loop.Relates.bind (ClientSummary.ofLine_alike htext h)
  rintro client _ rfl
  exact .ok ⟨h, rfl⟩

/-- A summary of clients looks at nothing but the texts of the lines, a failure apart. -/
theorem MicrobenchSummary.ofLines_alike (h : List.Forall₂ R lines lines') :
    AlikeUpTo R (ofLines lines) (ofLines lines') := by
  have hkept : List.Forall₂ R (lines.filter fun line => !isComment line.text.toList)
      (lines'.filter fun line => !isComment line.text.toList) := by
    refine List.rel_filter ?_ h
    intro line line' hline
    simp only [htext line line' hline]
  rw [ofLines, ofLines]
  apply Loop.Relates.bind (Loop.Relates.mapM hkept fun _ _ => readClient_relates htext)
  intro clients clients' hclients
  have hsummaries : clients.map Prod.snd = clients'.map Prod.snd := by
    rw [← List.forall₂_eq_eq_eq, List.forall₂_map_left_iff, List.forall₂_map_right_iff]
    exact hclients.imp fun _ _ => And.right
  have hthroughput : AlikeUpTo R (clients.foldlM addThroughput 0) (clients'.foldlM addThroughput 0) := by
    refine AlikeUpTo.foldlM hclients ?_ 0
    rintro total ⟨line, client⟩ ⟨line', _⟩ ⟨hline, rfl⟩
    exact Counter.add_alike hline _ _ _
  rw [isEmpty_eq_of_forall₂ hclients, hclients.length_eq, hsummaries]
  split
  · exact .error .noInput
  · exact hthroughput.bind fun _ => .ok rfl

end

end BenchLog
