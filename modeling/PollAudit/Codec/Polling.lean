import PollAudit.Json.Shape
import PollAudit.Polling.Aggregate

open PollAudit.Json

namespace PollAudit

namespace Count

/-- Reads a count that is a quantity. -/
def decode : Decoder Count := Decoder.count "u64"

/-- Reads a count that is a number of things. -/
def decodeSize : Decoder Count := Decoder.count "usize"

def encode (count : Count) : Value := .ofNat count.toNat

end Count

namespace Priority

def decode : Decoder Priority := Decoder.choice (all.map fun p => (p.name, p))

def encode (priority : Priority) : Value := .text priority.name

end Priority

namespace Lockups

def shape : Shape Lockups where
  name := "LockupAlerts"
  blank := {}
  members :=
    [.of "asap" .refused Decoder.flag fun b lockups => { lockups with asap := b },
     .of "high" .refused Decoder.flag fun b lockups => { lockups with high := b },
     .of "normal" .refused Decoder.flag fun b lockups => { lockups with normal := b },
     .of "low" .refused Decoder.flag fun b lockups => { lockups with low := b }]
  surplus := .dropped

def encode (lockups : Lockups) : Value :=
  .object
    [("asap", .boolean lockups.asap), ("high", .boolean lockups.high),
     ("normal", .boolean lockups.normal), ("low", .boolean lockups.low)]

end Lockups

namespace QueueLengths

def shape : Shape QueueLengths where
  name := "PriorityQueueLengths"
  blank := {}
  members :=
    [.of "asap" .refused Count.decode fun n lengths => { lengths with asap := n },
     .of "high" .refused Count.decode fun n lengths => { lengths with high := n },
     .of "normal" .refused Count.decode fun n lengths => { lengths with normal := n },
     .of "low" .refused Count.decode fun n lengths => { lengths with low := n }]
  surplus := .dropped

def encode (lengths : QueueLengths) : Value :=
  .object
    [("asap", lengths.asap.encode), ("high", lengths.high.encode),
     ("normal", lengths.normal.encode), ("low", lengths.low.encode)]

end QueueLengths

namespace LiveStats

def shape : Shape LiveStats where
  name := "NetworkLiveStats"
  blank := {}
  members :=
    [.of "network" .refused Decoder.text fun s stats => { stats with network := s },
     .of "enabled" .refused Decoder.flag fun b stats => { stats with enabled := b },
     .of "queue_length" .refused Count.decode fun n stats => { stats with queue := n },
     .of "standby_length" .refused Count.decode fun n stats => { stats with standby := n },
     .of "in_flight_count" .refused Count.decode fun n stats => { stats with inFlight := n },
     .of "lockups" .refused Lockups.shape.decode fun l stats => { stats with lockups := l },
     .of "priority_queue" .refused QueueLengths.shape.decode fun l stats =>
      { stats with byPriority := l },
     .of "total_poll_count" .refused Count.decode fun n stats => { stats with polls := n },
     .of "busy_time" .keyed (Decoder.optional Decoder.text) fun s stats =>
      { stats with busyTime := s }]
  surplus := .dropped

def encode (stats : LiveStats) : Value :=
  .object
    [("network", .text stats.network), ("enabled", .boolean stats.enabled),
     ("queue_length", stats.queue.encode), ("standby_length", stats.standby.encode),
     ("in_flight_count", stats.inFlight.encode), ("lockups", stats.lockups.encode),
     ("priority_queue", stats.byPriority.encode), ("total_poll_count", stats.polls.encode),
     ("busy_time", .ofOption .text stats.busyTime)]

end LiveStats

namespace Aggregate

def shape : Shape Aggregate where
  name := "PollAggregate"
  blank := {}
  members :=
    [.of "queue_length" .refused Count.decode fun n sum => { sum with queue := n },
     .of "standby_length" .refused Count.decode fun n sum => { sum with standby := n },
     .of "in_flight_count" .refused Count.decode fun n sum => { sum with inFlight := n },
     .of "lockouts" .refused Decoder.flag fun b sum => { sum with lockouts := b },
     .of "sampled" .refused Count.decodeSize fun n sum => { sum with sampled := n },
     .of "skipped" .refused Count.decodeSize fun n sum => { sum with skipped := n }]
  surplus := .dropped

def encode (sum : Aggregate) : Value :=
  .object
    [("queue_length", sum.queue.encode), ("standby_length", sum.standby.encode),
     ("in_flight_count", sum.inFlight.encode), ("lockouts", .boolean sum.lockouts),
     ("sampled", sum.sampled.encode), ("skipped", sum.skipped.encode)]

end Aggregate

end PollAudit
