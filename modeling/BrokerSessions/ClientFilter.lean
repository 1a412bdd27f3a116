-- Which clients a reader of a bucket wants to see. Ids are compared character by
-- character, with no folding of case and no normal form. UTF-8 makes this the
-- same as comparing bytes.
import BrokerSessions.Session

namespace BrokerSessions

inductive ClientFilter where
  | everyone
  | nobody
  | startsWith (text : String)
  | endsWith (text : String)
  | contains (text : String)
  | equals (text : String)
deriving DecidableEq

namespace ClientFilter

/-- Whether `part` stands somewhere in a text. -/
def occurs (part : List Char) : List Char → Bool
  | [] => part.isEmpty
  | c :: rest => part.isPrefixOf (c :: rest) || occurs part rest

def accepts : ClientFilter → ClientId → Bool
  | everyone, _ => true
  | nobody, _ => false
  | startsWith text, client => text.toList.isPrefixOf client.toList
  | endsWith text, client => text.toList.isSuffixOf client.toList
  | contains text, client => occurs text.toList client.toList
  | equals text, client => client == text

theorem occurs_iff (part text : List Char) : occurs part text = true ↔ part <:+: text := by
  induction text with
  | nil => simp [occurs, List.isEmpty_iff]
  | cons c rest ih => simp [occurs, ih, List.infix_cons_iff]

end ClientFilter

end BrokerSessions
