import Mathlib.Data.Nat.Notation

namespace Knights.WriteBehind

/-!
# Write-behind — stream entries and outside calls

Session events travel through Redis streams: the event stream that the worker
(`tools/wb_worker/main.cpp`) reads, the dead-letter queue (DLQ) it moves failing events to, and
the dead stream where the replayer (`tools/wb_dlq_replayer/main.cpp`) gives up.  An entry is an id
and a list of named values, in which names may repeat.  Postgres and Redis are outside: a model
takes what they answer as an input.
-/

/-- The named values of an entry, in stream order. -/
abbrev Fields := List (String × String)

/-- A stream entry (`IRedisClient::StreamEntry`). -/
structure StreamEntry where
  id : String
  fields : Fields
  deriving DecidableEq, Repr

/-- What an `xadd` call did: it returned `true` and appended, it returned `false`, or it threw.
    Only in the first case is the entry in the stream. -/
inductive XaddResult where
  | appended
  | refused
  | threw
  deriving DecidableEq, Repr

/-- Outcome of a database call: it went through, it threw `pqxx::broken_connection`, or it threw
    another exception with this text. -/
inductive DbResult where
  | ok
  | broken
  | failed (what : String)
  deriving DecidableEq, Repr

/-- The entry that `SendToDlq` appends for `e`. -/
def dlqFields (e : StreamEntry) (errorMsg : String) : Fields :=
  ("orig_event_id", e.id) :: e.fields ++ [("error", errorMsg)]

end Knights.WriteBehind
