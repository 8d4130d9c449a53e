import BenchLog.Proofs.SummaryGrammar

/-!
# Summing up clients

The comments are passed over, and what is left is read first and added up afterwards. So the first line that
is no client summary decides, whatever the sum of those before it; then an empty run; then the first line at
which the exact sum no longer fits 64 bits; and else there is a summary of all clients (`ofLines_outcome`).
-/

namespace BenchLog

namespace ClientSummary

/-- The summaries of the clients among some lines. -/
def ofAccepted (lines : List LogLine) : List ClientSummary :=
  (lines.filter fun line => !isComment line.text.toList).filterMap fun line => (ofLine line).toOption

theorem le_of_mem_ofAccepted {lines : List LogLine} {client : ClientSummary}
    (h : client ∈ ofAccepted lines) :
    client.median ≤ Decimal.wordLimit ∧ client.p99 ≤ Decimal.wordLimit ∧
      client.p999 ≤ Decimal.wordLimit := by
  obtain ⟨line, -, hline⟩ := List.mem_filterMap.mp h
  have hreports := ofWords_eq_ok_iff.mp (ofLine_eq_ok_iff.mp (Loop.toOption_eq_some_iff.mp hline))
  obtain ⟨_, -, -, hmedian⟩ := hreports.median
  obtain ⟨_, -, -, hp99⟩ := hreports.p99
  obtain ⟨_, -, -, hp999⟩ := hreports.p999
  exact ⟨Nat.le_of_lt_succ hmedian, Nat.le_of_lt_succ hp99, Nat.le_of_lt_succ hp999⟩

end ClientSummary

namespace MicrobenchSummary

/-- The lines that clients have written: all but the comments. -/
def clientLines (lines : List LogLine) : List LogLine :=
  lines.filter fun line => !isComment line.text.toList

/-- The exact sum of the throughputs that the clients among some lines report. -/
def throughputSum (lines : List LogLine) : ℕ :=
  ((ClientSummary.ofAccepted lines).map (·.throughput)).sum

/-- A line is a client summary. -/
def Accepted (line : LogLine) : Prop := ∃ client, ClientSummary.ofLine line = .ok client

/-- `line` is the first of the clients' lines that is no client summary. -/
def FirstRejected (lines : List LogLine) (line : LogLine) : Prop :=
  ∃ before after, clientLines lines = before ++ line :: after ∧
    (∀ earlier ∈ before, Accepted earlier) ∧ ¬Accepted line

/-- `line` is the first of the clients' lines at which the sum of the throughputs does not fit 64 bits. -/
def FirstExcess (lines : List LogLine) (line : LogLine) : Prop :=
  ∃ before after : List LogLine, clientLines lines = before ++ line :: after ∧
    throughputSum before < 2 ^ 64 ∧ 2 ^ 64 ≤ throughputSum (before ++ [line])

variable {lines : List LogLine} {clients : List (LogLine × ClientSummary)}

/-! ## Reading -/

theorem readClient_eq_ok_iff {line : LogLine} {client : LogLine × ClientSummary} :
    readClient line = .ok client ↔ client.1 = line ∧ ClientSummary.ofLine line = .ok client.2 := by
  rw [readClient, Loop.bind_eq_ok_iff]
  constructor
  · rintro ⟨summary, hsummary, hpair⟩
    cases hpair
    exact ⟨rfl, hsummary⟩
  · rintro ⟨rfl, hsummary⟩
    exact ⟨client.2, hsummary, rfl⟩

theorem readClient_eq_error_iff {line : LogLine} {failure : Failure} :
    readClient line = .error failure ↔ ClientSummary.ofLine line = .error failure := by
  rw [readClient, Loop.bind_eq_error_iff]
  simp

/-- The clients that are read are the lines with what each of them reports. -/
theorem mapM_readClient_eq_ok_iff : lines.mapM readClient = .ok clients ↔
    clients.map Prod.fst = lines ∧ ∀ client ∈ clients, ClientSummary.ofLine client.1 = .ok client.2 := by
  rw [Loop.mapM_eq_ok_iff]
  constructor
  · intro h
    induction h with
    | nil => exact ⟨rfl, List.forall_mem_nil _⟩
    | cons hread _ ih =>
        obtain ⟨rfl, hsummary⟩ := readClient_eq_ok_iff.mp hread
        obtain ⟨hlines, hclients⟩ := ih
        exact ⟨congrArg _ hlines, List.forall_mem_cons.mpr ⟨hsummary, hclients⟩⟩
  · rintro ⟨rfl, h⟩
    rw [List.forall₂_map_left_iff, List.forall₂_same]
    exact fun client member => readClient_eq_ok_iff.mpr ⟨rfl, h client member⟩

theorem exists_mapM_readClient (accepted : ∀ line ∈ lines, Accepted line) :
    ∃ clients, lines.mapM readClient = .ok clients := by
  cases h : lines.mapM readClient with
  | ok clients => exact ⟨clients, rfl⟩
  | error failure =>
      obtain ⟨before, line, after, rfl, -, hline⟩ := Loop.mapM_eq_error_iff.mp h
      obtain ⟨client, hclient⟩ := accepted line (by simp)
      rw [readClient_eq_error_iff, hclient] at hline
      cases hline

/-- The clients' lines are all client summaries, or there is a first one that is none. -/
theorem accepted_or_firstRejected (lines : List LogLine) :
    (∀ line ∈ clientLines lines, Accepted line) ∨ ∃ line, FirstRejected lines line := by
  cases h : (clientLines lines).mapM readClient with
  | ok clients =>
      obtain ⟨hlines, hclients⟩ := mapM_readClient_eq_ok_iff.mp h
      refine Or.inl fun line member => ?_
      rw [← hlines] at member
      obtain ⟨client, hclient, rfl⟩ := List.mem_map.mp member
      exact ⟨client.2, hclients client hclient⟩
  | error failure =>
      obtain ⟨before, line, after, hsplit, hbefore, hline⟩ := Loop.mapM_eq_error_iff.mp h
      refine Or.inr ⟨line, before, after, hsplit, fun earlier member => ?_, ?_⟩
      · obtain ⟨client, hclient⟩ := hbefore earlier member
        exact ⟨client.2, (readClient_eq_ok_iff.mp hclient).2⟩
      · rintro ⟨client, hclient⟩
        rw [readClient_eq_error_iff, hclient] at hline
        cases hline

theorem map_snd_readClients (h : (clientLines lines).mapM readClient = .ok clients) :
    clients.map Prod.snd = ClientSummary.ofAccepted lines := by
  obtain ⟨hlines, hclients⟩ := mapM_readClient_eq_ok_iff.mp h
  have hread : ∀ client ∈ clients, (ClientSummary.ofLine client.1).toOption = some client.2 :=
    fun client member => Loop.toOption_eq_some_iff.mpr (hclients client member)
  show _ = (clientLines lines).filterMap _
  rw [← hlines, List.filterMap_map, ← List.filterMap_eq_map]
  refine List.filterMap_congr fun client member => ?_
  simp only [Function.comp_apply, hread client member]

/-! ## Adding up -/

/-- The exact sum of the throughputs of some clients. -/
def total (clients : List (LogLine × ClientSummary)) : ℕ := (clients.map (·.2.throughput)).sum

@[simp] theorem total_nil : total [] = 0 := rfl

@[simp] theorem total_cons (client : LogLine × ClientSummary) (clients : List (LogLine × ClientSummary)) :
    total (client :: clients) = client.2.throughput + total clients := by
  simp [total]

theorem total_append (left right : List (LogLine × ClientSummary)) :
    total (left ++ right) = total left + total right := by
  simp [total]

theorem total_readClients (h : (clientLines lines).mapM readClient = .ok clients) :
    total clients = throughputSum lines := by
  rw [throughputSum, ← map_snd_readClients h, List.map_map]
  rfl

theorem addThroughput_eq {sum : ℕ} {client : LogLine × ClientSummary} : addThroughput sum client =
    if sum + client.2.throughput ≤ Decimal.wordLimit then .ok (sum + client.2.throughput)
    else .error (.overflow .throughput client.1.origin) := rfl

theorem foldlM_addThroughput {start : ℕ} (h : start + total clients ≤ Decimal.wordLimit) :
    clients.foldlM addThroughput start = .ok (start + total clients) := by
  induction clients generalizing start with
  | nil => rfl
  | cons client clients ih =>
      rw [total_cons, ← Nat.add_assoc] at h ⊢
      rw [List.foldlM_cons, addThroughput_eq, if_pos (by omega), Loop.ok_bind, ih h]

/-- The first client at which the sum no longer fits is reported. -/
theorem foldlM_addThroughput_of_overflow {start : ℕ} {before after : List (LogLine × ClientSummary)}
    {client : LogLine × ClientSummary} (hfits : start + total before ≤ Decimal.wordLimit)
    (hexceeds : Decimal.wordLimit < start + total before + client.2.throughput) :
    (before ++ client :: after).foldlM addThroughput start =
      .error (.overflow .throughput client.1.origin) := by
  rw [List.foldlM_append, foldlM_addThroughput hfits, Loop.ok_bind, List.foldlM_cons, addThroughput_eq,
    if_neg (not_le.mpr hexceeds), Loop.error_bind]

/-- A sum that does not fit has a first part that does, up to a client with which it no longer does. -/
theorem exists_overflow {start : ℕ} (hstart : start ≤ Decimal.wordLimit)
    (h : Decimal.wordLimit < start + total clients) :
    ∃ before client after, clients = before ++ client :: after ∧
      start + total before ≤ Decimal.wordLimit ∧
      Decimal.wordLimit < start + total before + client.2.throughput := by
  induction clients generalizing start with
  | nil => exact absurd hstart (not_le.mpr h)
  | cons client clients ih =>
      by_cases hfits : start + client.2.throughput ≤ Decimal.wordLimit
      · rw [total_cons, ← Nat.add_assoc] at h
        obtain ⟨before, later, after, rfl, hbefore, hlater⟩ := ih hfits h
        exact ⟨client :: before, later, after, rfl, by rwa [total_cons, ← Nat.add_assoc],
          by rwa [total_cons, ← Nat.add_assoc]⟩
      · exact ⟨[], client, clients, rfl, hstart, not_le.mp hfits⟩

/-! ## The outcome -/

/-- The summary of clients whose throughputs have this sum. -/
def ofClients (clients : List (LogLine × ClientSummary)) (throughput : ℕ) : MicrobenchSummary :=
  let summaries := clients.map Prod.snd
  { clients := clients.length
    throughput := throughput
    mean := sumFloats (summaries.map (·.mean)) / Float.ofNat clients.length
    median := meanOf (summaries.map (·.median))
    p99 := meanOf (summaries.map (·.p99))
    p999 := meanOf (summaries.map (·.p999)) }

/-- All lines are read, then the throughputs are added up. -/
theorem ofLines_of_read (h : (clientLines lines).mapM readClient = .ok clients) : ofLines lines =
    if clients = [] then .error .noInput
    else clients.foldlM addThroughput 0 >>= fun throughput => .ok (ofClients clients throughput) := by
  show ((clientLines lines).mapM readClient >>= _) = _
  rw [h, Loop.ok_bind]
  cases clients with
  | nil => rfl
  | cons client clients => rfl

theorem ofLines_of_firstRejected {line : LogLine} (h : FirstRejected lines line) :
    ∃ failure, ClientSummary.ofLine line = .error failure ∧ ofLines lines = .error failure := by
  obtain ⟨before, after, hsplit, hbefore, hrejected⟩ := h
  cases hline : ClientSummary.ofLine line with
  | ok client => exact absurd ⟨client, hline⟩ hrejected
  | error failure =>
      have hread : (clientLines lines).mapM readClient = .error failure := by
        refine Loop.mapM_eq_error_iff.mpr ⟨before, line, after, hsplit, fun earlier member => ?_, ?_⟩
        · obtain ⟨client, hclient⟩ := hbefore earlier member
          exact ⟨(earlier, client), readClient_eq_ok_iff.mpr ⟨rfl, hclient⟩⟩
        · exact readClient_eq_error_iff.mpr hline
      refine ⟨failure, rfl, ?_⟩
      show ((clientLines lines).mapM readClient >>= _) = _
      rw [hread, Loop.error_bind]

theorem ofLines_of_nil (h : clientLines lines = []) : ofLines lines = .error .noInput := by
  have hread : (clientLines lines).mapM readClient = .ok [] := by
    rw [h]
    rfl
  rw [ofLines_of_read hread, if_pos rfl]

theorem ofLines_of_fits (accepted : ∀ line ∈ clientLines lines, Accepted line)
    (hne : clientLines lines ≠ []) (hfits : throughputSum lines < 2 ^ 64) :
    ∃ summary, ofLines lines = .ok summary ∧ summary.clients = (clientLines lines).length ∧
      summary.throughput = throughputSum lines := by
  obtain ⟨clients, hread⟩ := exists_mapM_readClient accepted
  have hlines := (mapM_readClient_eq_ok_iff.mp hread).1
  have hclients : clients ≠ [] := by
    rintro rfl
    exact hne hlines.symm
  have hsum : clients.foldlM addThroughput 0 = .ok (throughputSum lines) := by
    have hle : 0 + total clients ≤ Decimal.wordLimit := by
      rw [Nat.zero_add, total_readClients hread]
      exact Nat.le_of_lt_succ hfits
    rw [foldlM_addThroughput hle, Nat.zero_add, total_readClients hread]
  refine ⟨ofClients clients (throughputSum lines), ?_, ?_, rfl⟩
  · rw [ofLines_of_read hread, if_neg hclients, hsum, Loop.ok_bind]
  · rw [← hlines, List.length_map]
    rfl

/-- Some of the clients report what their lines do. -/
theorem throughputSum_map_fst (h : (clientLines lines).mapM readClient = .ok clients)
    {part : List (LogLine × ClientSummary)} (hpart : ∀ client ∈ part, client ∈ clients) :
    throughputSum (part.map Prod.fst) = total part := by
  obtain ⟨hlines, hclients⟩ := mapM_readClient_eq_ok_iff.mp h
  have hself : clientLines (part.map Prod.fst) = part.map Prod.fst := by
    refine List.filter_eq_self.mpr fun line member => ?_
    obtain ⟨client, hclient, rfl⟩ := List.mem_map.mp member
    have hmem : client.1 ∈ clientLines lines := hlines ▸ List.mem_map_of_mem (hpart client hclient)
    exact (List.mem_filter.mp hmem).2
  have hread : (clientLines (part.map Prod.fst)).mapM readClient = .ok part := by
    rw [hself]
    exact mapM_readClient_eq_ok_iff.mpr ⟨rfl, fun client member => hclients client (hpart client member)⟩
  exact (total_readClients hread).symm

theorem ofLines_of_overflow (accepted : ∀ line ∈ clientLines lines, Accepted line)
    (hexceeds : 2 ^ 64 ≤ throughputSum lines) :
    ∃ line, FirstExcess lines line ∧ ofLines lines = .error (.overflow .throughput line.origin) := by
  obtain ⟨clients, hread⟩ := exists_mapM_readClient accepted
  have htotal : Decimal.wordLimit < 0 + total clients := by
    rw [Nat.zero_add, total_readClients hread]
    exact hexceeds
  obtain ⟨before, client, after, rfl, hbefore, hclient⟩ := exists_overflow (Nat.zero_le _) htotal
  have hlines := (mapM_readClient_eq_ok_iff.mp hread).1
  refine ⟨client.1, ⟨before.map Prod.fst, after.map Prod.fst, ?_, ?_, ?_⟩, ?_⟩
  · rw [← hlines, List.map_append, List.map_cons]
  · rw [throughputSum_map_fst hread (fun _ member => List.mem_append_left _ member), ← Nat.zero_add (total _)]
    exact Nat.lt_succ_of_le hbefore
  · have hsingle : before.map Prod.fst ++ [client.1] = (before ++ [client]).map Prod.fst := by simp
    rw [hsingle, throughputSum_map_fst hread (by simp +contextual [or_imp]), total_append, total_cons,
      total_nil, Nat.add_zero]
    rwa [Nat.zero_add] at hclient
  · rw [ofLines_of_read hread, if_neg (by simp), foldlM_addThroughput_of_overflow hbefore hclient,
      Loop.error_bind]

/-- There is a summary if and only if every client's line is one, there is a client, and the sum fits. -/
theorem ofLines_ok_iff {count throughput : ℕ} :
    (∃ summary, ofLines lines = .ok summary ∧ summary.clients = count ∧ summary.throughput = throughput) ↔
      (∀ line ∈ clientLines lines, Accepted line) ∧ clientLines lines ≠ [] ∧
        throughputSum lines < 2 ^ 64 ∧ (clientLines lines).length = count ∧
        throughputSum lines = throughput := by
  constructor
  · rintro ⟨summary, hok, rfl, rfl⟩
    rcases accepted_or_firstRejected lines with accepted | ⟨line, hfirst⟩
    · have hne : clientLines lines ≠ [] := by
        intro hnil
        rw [ofLines_of_nil hnil] at hok
        cases hok
      have hfits : throughputSum lines < 2 ^ 64 := by
        by_contra hexceeds
        obtain ⟨_, -, hoverflow⟩ := ofLines_of_overflow accepted (not_lt.mp hexceeds)
        rw [hoverflow] at hok
        cases hok
      obtain ⟨other, hother, hclients, hthroughput⟩ := ofLines_of_fits accepted hne hfits
      obtain rfl : other = summary := Except.ok.inj (hother.symm.trans hok)
      exact ⟨accepted, hne, hfits, hclients.symm, hthroughput.symm⟩
    · obtain ⟨failure, -, herror⟩ := ofLines_of_firstRejected hfirst
      rw [herror] at hok
      cases hok
  · rintro ⟨accepted, hne, hfits, rfl, rfl⟩
    exact ofLines_of_fits accepted hne hfits

theorem clientLines_perm {other : List LogLine} (h : lines.Perm other) :
    (clientLines lines).Perm (clientLines other) :=
  h.filter _

theorem throughputSum_perm {other : List LogLine} (h : lines.Perm other) :
    throughputSum lines = throughputSum other :=
  (((clientLines_perm h).filterMap _).map _).sum_nat

/-- A comment may stand anywhere. -/
theorem ofLines_comment (left : List LogLine) {comment : LogLine}
    (h : isComment comment.text.toList = true) (right : List LogLine) :
    ofLines (left ++ comment :: right) = ofLines (left ++ right) := by
  have hlines : clientLines (left ++ comment :: right) = clientLines (left ++ right) := by
    simp [clientLines, h]
  show ((clientLines _).mapM readClient >>= _) = ((clientLines _).mapM readClient >>= _)
  rw [hlines]

/-- How summing up ends. The first line that is no client summary decides, then whether there is a client,
    then the first line at which the sum of the throughputs reaches `2 ^ 64`; else there is a summary of all
    clients with the exact sum. Comments do not matter, and neither does the order if there is a summary. -/
theorem ofLines_outcome :
    (∀ lines, (∃ line ∈ clientLines lines, ¬Accepted line) →
      ∃ line failure, FirstRejected lines line ∧ ClientSummary.ofLine line = .error failure ∧
        ofLines lines = .error failure) ∧
    (∀ lines, (∀ line ∈ clientLines lines, Accepted line) →
      (clientLines lines = [] → ofLines lines = .error .noInput) ∧
      (2 ^ 64 ≤ throughputSum lines →
        ∃ line, FirstExcess lines line ∧ ofLines lines = .error (.overflow .throughput line.origin)) ∧
      (clientLines lines ≠ [] → throughputSum lines < 2 ^ 64 → ∃ summary, ofLines lines = .ok summary ∧
        summary.clients = (clientLines lines).length ∧ summary.throughput = throughputSum lines)) ∧
    (∀ left comment right, isComment comment.text.toList = true →
      ofLines (left ++ comment :: right) = ofLines (left ++ right)) ∧
    ∀ lines other summary, lines.Perm other → ofLines lines = .ok summary →
      ∃ summary', ofLines other = .ok summary' ∧ summary'.clients = summary.clients ∧
        summary'.throughput = summary.throughput := by
  refine ⟨?_, ?_, ?_, ?_⟩
  · rintro lines ⟨rejected, member, hrejected⟩
    rcases accepted_or_firstRejected lines with accepted | ⟨line, hfirst⟩
    · exact absurd (accepted rejected member) hrejected
    · obtain ⟨failure, hline, herror⟩ := ofLines_of_firstRejected hfirst
      exact ⟨line, failure, hfirst, hline, herror⟩
  · intro lines accepted
    exact ⟨ofLines_of_nil, ofLines_of_overflow accepted, ofLines_of_fits accepted⟩
  · intro left comment right h
    exact ofLines_comment left h right
  · intro lines other summary hperm hok
    obtain ⟨accepted, hne, hfits, hclients, hthroughput⟩ := ofLines_ok_iff.mp ⟨summary, hok, rfl, rfl⟩
    have hlines := clientLines_perm hperm
    refine ofLines_ok_iff.mpr ⟨fun line member => accepted line (hlines.mem_iff.mpr member), ?_, ?_, ?_, ?_⟩
    · intro hnil
      rw [hnil] at hlines
      exact hne hlines.eq_nil
    · rwa [← throughputSum_perm hperm]
    · rw [← hlines.length_eq, hclients]
    · rw [← throughputSum_perm hperm, hthroughput]

/-- The line of a client with this throughput. -/
def pointedLine {throughput : ℕ} (h : throughput < 2 ^ 64) : LogLine :=
  ⟨"c.log", 1, (ClientSummary.pointedDraft h).text⟩

theorem ofLine_pointedLine {throughput : ℕ} (h : throughput < 2 ^ 64) :
    ClientSummary.ofLine (pointedLine h) = .ok (.pointed throughput) :=
  (ClientSummary.pointedDraft h).ofLine_text _ _

theorem isComment_pointedLine {throughput : ℕ} (h : throughput < 2 ^ 64) :
    isComment (pointedLine h).text.toList = false := by
  show isComment (String.ofList _).toList = false
  rw [String.toList_ofList]
  rfl

/-- The line of a client whose throughput is the greatest number of 64 bits. -/
def busy : LogLine := pointedLine (by decide : 2 ^ 64 - 1 < 2 ^ 64)

/-- The line of a client with another throughput. -/
def calm : LogLine := pointedLine (by decide : 515481 < 2 ^ 64)

/-- A comment. -/
def remark : LogLine := ⟨"c.log", 2, "# two"⟩

/-- A line without labels. -/
def torn : LogLine := ⟨"c.log", 4, "throughput: 1"⟩

/-- A line without labels is reported although the sum before it does not fit. Without that line the sum is
    at fault, and clients with small numbers have a summary, whatever comments stand there. -/
theorem ofLines_outcome_busy :
    (∃ failure, ofLines [busy, remark, calm, torn] = .error failure ∧
      ClientSummary.ofLine torn = .error failure) ∧
    (∃ line : LogLine, ofLines [busy, remark, calm] = .error (.overflow .throughput line.origin)) ∧
    ofLines [remark] = .error .noInput ∧
    (∃ summary, ofLines [calm, remark, calm] = .ok summary ∧ summary.throughput = 1030962) ∧
    ofLines [busy, remark, calm] = ofLines [busy, calm] := by
  obtain ⟨hrejected, haccepted, hcomment, -⟩ := ofLines_outcome
  have hbusyRead : ClientSummary.ofLine busy = .ok (.pointed (2 ^ 64 - 1)) := ofLine_pointedLine _
  have hcalmRead : ClientSummary.ofLine calm = .ok (.pointed 515481) := ofLine_pointedLine _
  have hbusy : Accepted busy := ⟨_, hbusyRead⟩
  have hcalm : Accepted calm := ⟨_, hcalmRead⟩
  have htorn : ¬Accepted torn := by
    intro h
    have hok := Loop.isOk_iff.mpr h
    revert hok
    decide +kernel
  have hlines : isComment busy.text.toList = false ∧ isComment calm.text.toList = false ∧
      isComment remark.text.toList = true ∧ isComment torn.text.toList = false :=
    ⟨isComment_pointedLine _, isComment_pointedLine _, by decide +kernel, by decide +kernel⟩
  refine ⟨?_, ?_, ?_, ?_, ?_⟩
  · obtain ⟨line, failure, ⟨before, after, hsplit, -, hline⟩, hfailure, houtcome⟩ :=
      hrejected [busy, remark, calm, torn] ⟨torn, by simp [clientLines, hlines], htorn⟩
    have hmem : line ∈ clientLines [busy, remark, calm, torn] := by
      rw [hsplit]
      simp
    have hcases : line = busy ∨ line = calm ∨ line = torn := by
      simpa [clientLines, hlines] using hmem
    rcases hcases with rfl | rfl | rfl
    · exact absurd hbusy hline
    · exact absurd hcalm hline
    · exact ⟨failure, houtcome, hfailure⟩
  · have hread := haccepted [busy, remark, calm] (by simp [clientLines, hlines, hbusy, hcalm])
    have hsum : throughputSum [busy, remark, calm] = 2 ^ 64 - 1 + 515481 := by
      simp [throughputSum, ClientSummary.ofAccepted, hlines, hbusyRead, hcalmRead, Except.toOption,
        ClientSummary.pointed]
    obtain ⟨line, -, h⟩ := hread.2.1 (by rw [hsum]; decide)
    exact ⟨line, h⟩
  · exact (haccepted [remark] (by simp [clientLines, hlines])).1 (by simp [clientLines, hlines])
  · have hread := haccepted [calm, remark, calm] (by simp [clientLines, hlines, hcalm])
    have hsum : throughputSum [calm, remark, calm] = 1030962 := by
      simp [throughputSum, ClientSummary.ofAccepted, hlines, hcalmRead, Except.toOption,
        ClientSummary.pointed]
    obtain ⟨summary, hsummary, -, hthroughput⟩ :=
      hread.2.2 (by simp [clientLines, hlines]) (by rw [hsum]; decide)
    exact ⟨summary, hsummary, hthroughput.trans hsum⟩
  · exact hcomment [busy] remark [calm] hlines.2.2.1

end MicrobenchSummary

end BenchLog
