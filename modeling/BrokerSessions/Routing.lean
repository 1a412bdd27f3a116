-- From a client to its bucket. The UTF-8 bytes of the client id are cut into
-- words, the words are mixed into a 64-bit fingerprint, and the fingerprint is
-- scaled down to the number of buckets. The same client always gets the same
-- bucket, so no operation ever spans two of them.
import BrokerSessions.Session

namespace BrokerSessions.Routing

/-- The number that bytes spell, the lowest byte first. -/
def littleEndian (bytes : Bytes) : UInt64 :=
  bytes.foldr (fun b rest => rest * 256 + b.toUInt64) 0

/-- A tail of less than eight bytes is cut into words of the given lengths, each
where enough bytes are left. -/
def tailWords : List Nat → Bytes → List UInt64
  | [], _ => []
  | n :: ns, bytes =>
    if n ≤ bytes.length then littleEndian (bytes.take n) :: tailWords ns (bytes.drop n)
    else tailWords ns bytes

/-- Bytes are cut into words of eight. The tail goes by four, by two and by one. -/
def words : Bytes → List UInt64
  | a :: b :: c :: d :: e :: f :: g :: h :: rest =>
    littleEndian [a, b, c, d, e, f, g, h] :: words rest
  | rest => tailWords [4, 2, 1] rest

/-- One word is mixed in: rotate by five bits, combine, multiply. -/
def mix (hash word : UInt64) : UInt64 :=
  ((hash <<< 5 ||| hash >>> 59) ^^^ word) * 0x517cc1b727220a95

/-- The fingerprint of a client id. The empty id has fingerprint zero. -/
def fingerprint (client : ClientId) : UInt64 :=
  (words client.toUTF8.data.toList).foldl mix 0

/-- A fingerprint scaled down to `count` buckets: the high bits decide. -/
def share (hash : UInt64) (count : Nat) : Nat := hash.toNat * count / 18446744073709551616

/-- The bucket of a client among `count` buckets. -/
def bucketOf (client : ClientId) (count : Nat) : Nat := share (fingerprint client) count

theorem share_lt (hash : UInt64) {count : Nat} (h : 0 < count) : share hash count < count := by
  have hb : hash.toNat < 18446744073709551616 := hash.toNat_lt
  exact Nat.div_lt_of_lt_mul (Nat.mul_lt_mul_of_pos_right hb h)

theorem bucketOf_lt (client : ClientId) {count : Nat} (h : 0 < count) :
    bucketOf client count < count := share_lt _ h

end BrokerSessions.Routing
