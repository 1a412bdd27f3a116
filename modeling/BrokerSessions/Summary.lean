-- The store in a few words, for people who look into a running broker. A summary
-- is a name and some numbered fields. It is written on one line, or as a block
-- with one field a line.
import BrokerSessions.Store

namespace BrokerSessions

/-- A name, and numbers with labels. -/
structure Summary where
  title : String
  fields : List (String × Nat)
deriving DecidableEq

namespace Summary

/-- All fields on one line, in braces. -/
def line (s : Summary) : String :=
  s.title ++ " \x7b " ++ ", ".intercalate (s.fields.map fun (label, n) => s!"{label}: {n}") ++ " \x7d"

/-- One field a line, indented and with a comma after each. -/
def block (s : Summary) : String :=
  s.title ++ " \x7b\n" ++ "".intercalate (s.fields.map fun (label, n) => s!"    {label}: {n},\n")
    ++ "\x7d"

end Summary

/-- The store in a few words: how many buckets, live sessions, bytes and records. -/
def Store.summary (s : Store) : Summary where
  title := "ClientSessionStore"
  fields := [("bucket_count", s.bucketCount), ("sessions_count", s.sessions.toNat),
    ("memory_size", s.memory.toNat), ("total_entries", s.totalEntries)]

/-- What is shown of the holder of the payload references: its name and no fields. -/
def custodySummary : String := "WillReferences \x7b .. \x7d"

end BrokerSessions
