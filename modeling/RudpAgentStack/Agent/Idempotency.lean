import RudpAgentStack.Foundation.TtlCache
import RudpAgentStack.Foundation.Text
import Mathlib.Algebra.Order.Ring.Rat

/-!
# The idempotency cache

`IdempotencyCache` of `server/agent/idempotency.py`: responses keyed by client,
request id and opcode, found for 120 seconds after they were stored.
-/

namespace RudpAgentStack

open Foundation

/-- `IDEMPOTENCY_TTL`, in seconds. -/
def idempotencyTtl : ℚ := 120

/-- The key of a response: client id, request id and opcode. -/
abbrev IdempotencyKey := Text × Int × Int

/-- `CachedResponse`: the response with the time it was stored. -/
abbrev CachedResponse := Stamped Bytes ℚ

/-- `IdempotencyCache` -/
abbrev IdempotencyCache := TtlCache IdempotencyKey Bytes ℚ

namespace IdempotencyCache

/-- `get_response` at a reading of the clock. -/
def getResponse
    (cache : IdempotencyCache) (clientId : Text) (requestId opcode : Int)
    (now : ℚ) : Option Bytes × IdempotencyCache :=
  TtlCache.lookup idempotencyTtl cache (clientId, requestId, opcode) now

/-- `store_response` at a reading of the clock. -/
def storeResponse
    (cache : IdempotencyCache) (clientId : Text) (requestId opcode : Int)
    (responseData : Bytes) (now : ℚ) : IdempotencyCache :=
  TtlCache.store cache (clientId, requestId, opcode) responseData now

/-- `cleanup` -/
def cleanup (cache : IdempotencyCache) (now : ℚ) : IdempotencyCache :=
  TtlCache.sweep idempotencyTtl cache now

end IdempotencyCache

end RudpAgentStack
