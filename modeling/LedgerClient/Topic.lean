import LedgerClient.Entity.Id
import LedgerClient.Timestamp
import LedgerClient.Bytes

/-!
# Topics

A mirror streams the messages of a topic in consensus order. A query bounds the
consensus times, the first inclusively and the second exclusively, and the number
of messages; a limit of zero is none.
-/

namespace LedgerClient

/-- What a stream is asked for. -/
structure TopicQuery where
  topicId : TopicId
  startTime : Option Timestamp
  endTime : Option Timestamp
  limit : UInt64
  deriving Inhabited

/-- A message of a topic. -/
structure TopicMessage where
  topicId : TopicId
  consensusTimestamp : Timestamp
  /-- Position of the message in the topic. -/
  sequenceNumber : UInt64
  contents : Bytes
  deriving Inhabited

end LedgerClient
