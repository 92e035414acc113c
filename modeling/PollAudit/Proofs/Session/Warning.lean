import PollAudit.Audit.Script
import PollAudit.Proofs.Batch.Completion
import PollAudit.Proofs.Polling.Sum
import PollAudit.Proofs.Session.Report
import PollAudit.Proofs.Session.Trace

namespace PollAudit

/-- What the source itself warned of while it answered. -/
def Exchange.warnings : Exchange → List Event
  | listings reply => Event.atLeast .warn reply.events
  | tree reply => Event.atLeast .warn reply.events
  | stats _ _ pending => Event.atLeast .warn pending.reply.events

private theorem Batch.flatMap_warnings_exchanges (plugin : String) {entries : List Watch}
    {sent : List Pending} (h : sent.length ≤ entries.length) :
    (exchanges plugin entries sent).flatMap Exchange.warnings =
      sent.flatMap fun pending => Event.atLeast .warn pending.reply.events := by
  induction entries generalizing sent with
  | nil =>
    rw [List.length_nil, Nat.le_zero_eq, List.length_eq_zero_iff] at h
    subst sent
    rfl
  | cons watch rest ih =>
    cases sent with
    | nil => rfl
    | cons pending later => exact congrArg (_ ++ ·) (ih (Nat.le_of_succ_le_succ h))

namespace Account

/-- A monitor does not warn of a tree, whether it is found or not. -/
theorem atLeast_refreshEvents (reason : RefreshReason) (watched : Watched) (held : Count)
    (reply? : Option (Reply (List Network))) :
    Event.atLeast .warn (reply?.elim [] (refreshEvents reason watched held)) =
      (reply?.toList.map Exchange.tree).flatMap Exchange.warnings := by
  rcases reply? with _ | ⟨failure | networks, events⟩
  · rfl
  · rw [Option.elim_some, refreshEvents_of_error]
    exact (List.append_nil _).symm
  · rw [Option.elim_some, refreshEvents_of_ok, Event.atLeast_append, Monitor.atLeast_treeEvents]
    rfl

private theorem atLeast_batchEvents (reply : Reply (List LiveStats)) :
    Event.atLeast .warn (batchEvents reply) = Event.atLeast .warn reply.events := by
  rw [batchEvents, Event.atLeast_append]
  cases reply.value? with
  | none => exact List.append_nil _
  | some samples => rw [Option.elim_some, Monitor.atLeast_sumEvents, List.append_nil]

private theorem atLeast_compare (held : Count) (streak : Streak) (total? : Option Count) :
    Event.atLeast .warn
      (total?.elim [] fun total => Monitor.compareEvents held total streak) = [] := by
  cases total? with
  | none => rfl
  | some total => exact Monitor.atLeast_compareEvents ..

end Account

namespace Session

variable {σ : Type} {s : Session σ} {report : CycleReport}

/-- The warnings of stalled networks in the next cycle, in the order in which their counters come
in. -/
def alerts (s : Session σ) : List Event :=
  (Batch.completed s.sent).flatMap Pending.alerts

/-- In a cycle that does not fail, the alerts come among the warnings of the source, and the alarm
comes last. -/
theorem interleaves_of_report (h : s.reply.result = .ok report) :
    Interleaves (s.exchanges.flatMap Exchange.warnings) (s.alerts ++ report.alarm)
      (Event.atLeast .warn s.reply.events) := by
  obtain ⟨aggregate, haggregate, _⟩ := exists_aggregate_of_reply h
  obtain ⟨samples, hsamples, _, hbatch, _⟩ := exists_samples_of_aggregate haggregate
  have hsettle := Batch.interleaves_settle (.ofSize s.monitor.watched.size) hsamples
  rw [reply_events, h, Monitor.alarm_ok, Event.atLeast_append, report.atLeast_alarm,
    Account.events, Account.openingEvents, Account.laterEvents, exchanges_eq_account, statsRequests,
    hbatch]
  simp only [Event.atLeast_append, Account.atLeast_refreshEvents, Account.atLeast_compare,
    Option.elim_some, Account.atLeast_batchEvents, List.flatMap_append, List.nil_append,
    Batch.flatMap_warnings_exchanges _ length_sent_le, List.append_assoc]
  rw [← List.append_assoc _ _ report.alarm, ← List.append_assoc _ _ report.alarm]
  exact (hsettle.surround _ _).append_right _

/-- A report has lockouts exactly if there is something to warn of. -/
theorem lockouts_iff_alerts (h : s.reply.result = .ok report) :
    report.lockouts = true ↔ s.alerts ≠ [] := by
  obtain ⟨aggregate, haggregate, _, rfl⟩ := exists_aggregate_of_reply h
  obtain ⟨samples, hsamples, _, _, rfl⟩ := exists_samples_of_aggregate haggregate
  change (Aggregate.ofSamples samples).lockouts = true ↔ _
  rw [Aggregate.lockouts_ofSamples, alerts, Ne, Batch.flatMap_alerts_eq_nil_iff hsamples,
    ← Bool.not_eq_false, List.any_eq_false]
  simp only [LiveStats.alerts_eq_nil_iff, Bool.not_eq_true]

/-- The requests for counters in a cycle, between those for the tree. -/
theorem filter_isStats_exchanges :
    s.exchanges.filter (·.call.isStats) = s.statsRequests := by
  have htrees (replies : List (Reply (List Network))) :
      (replies.map Exchange.tree).filter (·.call.isStats) = [] := by
    rw [List.filter_eq_nil_iff, List.forall_mem_map]
    exact fun _ _ => Bool.false_ne_true
  rw [exchanges_eq_account, List.filter_append, List.filter_append, htrees, htrees,
    List.filter_eq_self.mpr fun exchange => isStats_of_mem_statsRequests, List.nil_append,
    List.append_nil]

private theorem message_of_mem_alerts {event : Event} (h : event ∈ s.alerts) :
    event.message = "polling lockup alert" := by
  obtain ⟨pending, _, hevent⟩ := List.mem_flatMap.mp h
  rw [Pending.alerts] at hevent
  cases hresult : pending.reply.result.toOption with
  | none =>
    rw [hresult] at hevent
    cases hevent
  | some stats =>
    rw [hresult, Option.elim_some, LiveStats.alerts] at hevent
    split at hevent
    · rw [List.mem_singleton.mp hevent]
    · cases hevent

/-- An alert can be told from an alarm by its message. -/
theorem exists_alert_iff :
    (∃ event ∈ s.alerts ++ report.alarm, event.message = "polling lockup alert") ↔
      s.alerts ≠ [] := by
  constructor
  · rintro ⟨event, hevent, hmessage⟩ hnone
    rw [hnone, List.nil_append, CycleReport.alarm] at hevent
    obtain ⟨incorrect, _, rfl⟩ := List.mem_map.mp hevent
    exact (by decide : "polling count mismatch persists" ≠ "polling lockup alert") hmessage
  · intro hsome
    obtain ⟨event, hevent⟩ := List.exists_mem_of_ne_nil _ hsome
    exact ⟨event, List.mem_append_left _ hevent, message_of_mem_alerts hevent⟩

/-- What a report calls incorrect is its own total, and its phase counts the mismatches. -/
theorem mismatched_of_incorrect (h : s.reply.result = .ok report) {count : Count}
    (hcount : report.incorrect = some count) :
    count = report.total ∧ ∃ streak, report.phase = .mismatched streak := by
  have hok := (reply_result_eq_ok_iff.mp h).1
  obtain ⟨aggregate, _, htotal, rfl⟩ := exists_aggregate_of_reply h
  obtain ⟨_, hlast⟩ : s.monitor.reconciler.policy.escalateAfter ≤ _ ∧
      s.next.monitor.reconciler.ledger.lastMismatch = some count := by
    simpa [Reconciler.report, Reconciler.escalated] using hcount
  by_cases hunchanged : aggregate.total ≠ s.held ∧ s.forcedCount? = some s.held
  · obtain ⟨hphase, _, hobserved, _⟩ :=
      ledger_next_of_unchanged htotal hunchanged.1 hunchanged.2
    exact ⟨Option.some.inj (hlast.symm.trans hobserved), _, hphase⟩
  · obtain ⟨_, hnone⟩ := ledger_next_of_synced hok htotal hunchanged
    cases hnone.symm.trans hlast

/-- What a cycle warns of is what it reports. A cycle with a report has one answer from every
watched network, and its warnings are the alerts of the networks that are enabled and stalled, in
the order in which their answers came in, and then the alarm if the report has an incorrect count,
which is its total. Where the source warns of something itself, this comes among them and changes
nothing. So there are lockouts in the report exactly if there was an alert. -/
theorem warnings_of_report (h : s.reply.result = .ok report) :
    let warnings := Event.atLeast .warn s.reply.events
    (s.exchanges.filter (·.call.isStats) =
        Batch.exchanges s.monitor.plugin s.monitor.watched.entries s.sent ∧
      s.sent.length = s.monitor.watched.entries.length) ∧
    Interleaves (s.exchanges.flatMap Exchange.warnings) (s.alerts ++ report.alarm) warnings ∧
    ((∀ exchange ∈ s.exchanges, exchange.warnings = []) →
      warnings = s.alerts ++ report.alarm ∧
      (report.lockouts = true ↔
        ∃ event ∈ warnings, event.message = "polling lockup alert")) ∧
    (∀ count, report.incorrect = some count →
      count = report.total ∧ ∃ streak, report.phase = .mismatched streak) ∧
    (report.lockouts = true ↔ s.alerts ≠ []) := by
  intro warnings
  have hwarnings := interleaves_of_report h
  obtain ⟨aggregate, haggregate, _⟩ := exists_aggregate_of_reply h
  refine ⟨⟨filter_isStats_exchanges, length_sent haggregate⟩, hwarnings, ?_,
    fun count hcount => mismatched_of_incorrect h hcount, lockouts_iff_alerts h⟩
  intro hquiet
  rw [List.flatMap_eq_nil_iff.mpr hquiet] at hwarnings
  have hexact : warnings = s.alerts ++ report.alarm := hwarnings.eq_of_nil
  refine ⟨hexact, ?_⟩
  rw [hexact, lockouts_iff_alerts h, exists_alert_iff]

/-- Three networks that all have stalled classes. The first one answers late and the second one is
disabled, and one of four points is missing. -/
def stalling : ScriptedSource where
  listings :=
    .ok [⟨⟨"a"⟩, "A", "modbus", true⟩, ⟨⟨"b"⟩, "B", "modbus", true⟩, ⟨⟨"c"⟩, "C", "modbus", true⟩]
  trees := [.ok [⟨⟨"a"⟩, "A", "modbus", true, [⟨true, [⟨true⟩, ⟨true⟩]⟩]⟩,
    ⟨⟨"c"⟩, "C", "modbus", true, [⟨true, [⟨true⟩, ⟨true⟩]⟩]⟩]]
  stats :=
    [("A", [⟨.ok { network := "A", enabled := true, queue := 1, lockups := { high := true } }, 2⟩]),
     ("B", [⟨.ok { network := "B", queue := 1, lockups := { low := true } }, 0⟩]),
     ("C",
       [⟨.ok { network := "C", enabled := true, queue := 2, lockups := { asap := true, low := true } },
         0⟩])]

/-- The session that starts on such networks, with an alarm at the first mismatch. -/
def ofStalling : Session ScriptedSource where
  source := ScriptedSource.source
  monitor := ⟨"modbus", ⟨[⟨⟨"a"⟩, "A"⟩, ⟨⟨"b"⟩, "B"⟩, ⟨⟨"c"⟩, "C"⟩]⟩,
    ⟨⟨5, 1, Policy.standard.refreshEvery_ne_zero⟩, {}⟩⟩
  world := { stalling with listingCalls := 1 }

/-- Its first report. -/
def stallingReport : CycleReport where
  cycle := 1
  lockouts := true
  expected := 4
  total := 3
  inFlight := 0
  queue := 3
  standby := 0
  phase := .mismatched 1
  incorrect := some 3

/-- The network that answers at once is the first one warned of, and the disabled one is not warned
of. -/
theorem warnings_of_stalling :
    ofStalling.reply.result = .ok stallingReport ∧
      ofStalling.alerts ++ stallingReport.alarm =
        [{ level := .warn
           message := "polling lockup alert"
           fields := [("network", .text "C"), ("stalled", .text "asap, low")] },
         { level := .warn
           message := "polling lockup alert"
           fields := [("network", .text "A"), ("stalled", .text "high")] },
         { level := .warn
           message := "polling count mismatch persists"
           fields := [("expected", .number 4), ("actual", .number 3), ("streak", .number 1)] }] := by
  have hreport : ofStalling.reply.result = .ok stallingReport := by decide +kernel
  have hquiet : ∀ exchange ∈ ofStalling.exchanges, exchange.warnings = [] := by decide +kernel
  obtain ⟨_, _, hexact, _⟩ := warnings_of_report hreport
  obtain ⟨hwarnings, _⟩ := hexact hquiet
  refine ⟨hreport, hwarnings.symm.trans ?_⟩
  decide +kernel

end Session

end PollAudit
