-- Why the store refuses a request. An argument can be outside its domain, there
-- can be no session to change, and a caller can break the rule that a bucket has
-- one writer at a time.

namespace BrokerSessions

/-- An argument outside its domain. -/
inductive BadArgument where
  | stampNotPositive
  | noSuchBucket (index count : Nat)
  | negativeExpiry (interval : Int64)
  | other (text : String)
deriving DecidableEq

def BadArgument.message : BadArgument → String
  | .stampNotPositive => "Timestamp must be greater than 0"
  | .noSuchBucket index count =>
    s!"Bucket index {index} out of range, bucket count is {count}"
  | .negativeExpiry n => s!"Invalid session expiry interval {n}"
  | .other text => text

/-- A rule of the store that a caller broke. -/
inductive BrokenRule where
  | alreadyWriting (bucket : Nat)
  | other (text : String)
deriving DecidableEq

def BrokenRule.message : BrokenRule → String
  | .alreadyWriting bucket => s!"bucket {bucket} is already being written by the calling thread"
  | .other text => text

/-- Why the store refuses a request. -/
inductive Refusal where
  | invalidArgument (what : BadArgument)
  | noSession
  | preconditionViolated (what : BrokenRule)
deriving DecidableEq

namespace Refusal

def message : Refusal → String
  | .invalidArgument what => s!"Invalid argument: {what.message}"
  | .noSession => "No session found"
  | .preconditionViolated what => s!"Precondition violated: {what.message}"

/-- A caller is expected to live with a missing session. The other refusals say
that the caller itself is wrong. -/
def isRecoverable : Refusal → Bool
  | .noSession => true
  | _ => false

end Refusal

end BrokerSessions
