import PollAudit.Json.Shape
import PollAudit.Polling.Stats

open PollAudit.Json

namespace PollAudit.Wire

/-- The polling statistics of one network as the API sends them. Counters are signed there. -/
structure QueueStats where
  enable : Bool
  network : Option String := none
  plugin : Option String := none
  queue : Int
  standby : Int
  outForPolling : Int
  asapQueue : Int := 0
  highQueue : Int := 0
  normalQueue : Int := 0
  lowQueue : Int := 0
  polls : Int := 0
  asapLockup : Bool := false
  highLockup : Bool := false
  normalLockup : Bool := false
  lowLockup : Bool := false
  averageExecuteTime : Option String := none
  busyTime : Option String := none
  enabledTime : Option String := none
  extra : Members := []
deriving DecidableEq, Repr

namespace QueueStats

def shape : Shape QueueStats where
  name := "PollQueueStatistics"
  blank := { enable := false, queue := 0, standby := 0, outForPolling := 0 }
  members :=
    [.of "enable" .refused Decoder.flag fun b stats => { stats with enable := b },
     .of "network_name" .anywhere optionalText fun s stats => { stats with network := s },
     .of "plugin_name" .anywhere optionalText fun s stats => { stats with plugin := s },
     .of "total_poll_queue_length" .refused Decoder.int64 fun n stats =>
      { stats with queue := n },
     .of "total_standby_points_length" .refused Decoder.int64 fun n stats =>
      { stats with standby := n },
     .of "total_points_out_for_polling" .refused Decoder.int64 fun n stats =>
      { stats with outForPolling := n },
     .of "asap_priority_poll_queue_length" .anywhere Decoder.int64 fun n stats =>
      { stats with asapQueue := n },
     .of "high_priority_poll_queue_length" .anywhere Decoder.int64 fun n stats =>
      { stats with highQueue := n },
     .of "normal_priority_poll_queue_length" .anywhere Decoder.int64 fun n stats =>
      { stats with normalQueue := n },
     .of "low_priority_poll_queue_length" .anywhere Decoder.int64 fun n stats =>
      { stats with lowQueue := n },
     .of "total_poll_count" .anywhere Decoder.int64 fun n stats => { stats with polls := n },
     .of "asap_priority_lockup_alert" .anywhere Decoder.flag fun b stats =>
      { stats with asapLockup := b },
     .of "high_priority_lockup_alert" .anywhere Decoder.flag fun b stats =>
      { stats with highLockup := b },
     .of "normal_priority_lockup_alert" .anywhere Decoder.flag fun b stats =>
      { stats with normalLockup := b },
     .of "low_priority_lockup_alert" .anywhere Decoder.flag fun b stats =>
      { stats with lowLockup := b },
     .of "average_poll_execute_time" .anywhere optionalText fun s stats =>
      { stats with averageExecuteTime := s },
     .of "busy_time" .anywhere optionalText fun s stats => { stats with busyTime := s },
     .of "enabled_time" .anywhere optionalText fun s stats => { stats with enabledTime := s }]
  surplus := .kept fun key value stats => { stats with extra := stats.extra.set key value }
where
  optionalText : Decoder (Option String) := Decoder.optional Decoder.text

def encode (stats : QueueStats) : Value :=
  .object
    ([("enable", .boolean stats.enable),
      ("network_name", .ofOption .text stats.network),
      ("plugin_name", .ofOption .text stats.plugin),
      ("total_poll_queue_length", .ofInt stats.queue),
      ("total_standby_points_length", .ofInt stats.standby),
      ("total_points_out_for_polling", .ofInt stats.outForPolling),
      ("asap_priority_poll_queue_length", .ofInt stats.asapQueue),
      ("high_priority_poll_queue_length", .ofInt stats.highQueue),
      ("normal_priority_poll_queue_length", .ofInt stats.normalQueue),
      ("low_priority_poll_queue_length", .ofInt stats.lowQueue),
      ("total_poll_count", .ofInt stats.polls),
      ("asap_priority_lockup_alert", .boolean stats.asapLockup),
      ("high_priority_lockup_alert", .boolean stats.highLockup),
      ("normal_priority_lockup_alert", .boolean stats.normalLockup),
      ("low_priority_lockup_alert", .boolean stats.lowLockup),
      ("average_poll_execute_time", .ofOption .text stats.averageExecuteTime),
      ("busy_time", .ofOption .text stats.busyTime),
      ("enabled_time", .ofOption .text stats.enabledTime)] ++ stats.extra)

/-- The statistics as counts. A negative counter counts for nothing. -/
def live (stats : QueueStats) : LiveStats where
  network := stats.network.getD ""
  enabled := stats.enable
  queue := .ofInt stats.queue
  standby := .ofInt stats.standby
  inFlight := .ofInt stats.outForPolling
  lockups := ⟨stats.asapLockup, stats.highLockup, stats.normalLockup, stats.lowLockup⟩
  byPriority :=
    ⟨.ofInt stats.asapQueue, .ofInt stats.highQueue, .ofInt stats.normalQueue,
      .ofInt stats.lowQueue⟩
  polls := .ofInt stats.polls
  busyTime := stats.busyTime

end QueueStats

end PollAudit.Wire
