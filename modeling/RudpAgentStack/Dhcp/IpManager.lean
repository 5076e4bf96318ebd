import RudpAgentStack.Common.Constants
import RudpAgentStack.Foundation.Dict
import RudpAgentStack.Foundation.Text
import Mathlib.Algebra.Order.Ring.Rat
import Mathlib.Data.Finset.Insert
import Mathlib.Data.Finset.Erase

/-!
# The pool of addresses

`IPManager` of `server/dhcp/ip_manager.py`: leases by the MAC address of their
client, and the addresses in use.  An address is a text; the bounds of the pool
are addresses in dotted form.  The handlers read the clock once for the cleanup
and once for the new time of expiry.
-/

namespace RudpAgentStack

open Foundation

/-- An address, by its four numbers. -/
structure Ipv4 where
  parts : Fin 256 × Fin 256 × Fin 256 × Fin 256
  deriving DecidableEq

namespace Ipv4

/-- There are bytes, so numerals denote them. -/
instance neZero : NeZero (256 : Nat) := ⟨by decide⟩

/-- The dotted form. -/
def text : Ipv4 → Text
  | ⟨first, second, third, fourth⟩ =>
      Text.ofInt first.val ++ "." ++ Text.ofInt second.val ++ "." ++
        Text.ofInt third.val ++ "." ++ Text.ofInt fourth.val

/-- `_ip_to_int`, of an address in dotted form. -/
def ipToInt : Ipv4 → Nat
  | ⟨first, second, third, fourth⟩ =>
      (first.val <<< 24) + (second.val <<< 16) + (third.val <<< 8) + fourth.val

/-- `_int_to_ip` -/
def intToIp (ipInt : Nat) : Ipv4 :=
  ⟨Fin.ofNat 256 (ipInt >>> 24), Fin.ofNat 256 (ipInt >>> 16),
    Fin.ofNat 256 (ipInt >>> 8), Fin.ofNat 256 ipInt⟩

end Ipv4

/-- State of a lease. -/
inductive LeaseState
  | selecting
  | bound
  deriving DecidableEq

/-- An entry of `leased_ips`. -/
structure Lease where
  ip : Text
  xid : Int
  expiresAt : ℚ
  state : LeaseState
  deriving DecidableEq

/-- What a handler reads from the clock. -/
structure LeaseClock where
  cleanup : ℚ
  renewal : ℚ
  deriving DecidableEq

/-- `IPManager` -/
structure IpManager where
  startIp : Ipv4
  endIp : Ipv4
  leasedIps : Dict Text Lease := .empty
  allocatedIps : Finset Text := ∅

namespace IpManager

/-- `_get_next_available_ip` -/
def getNextAvailableIp (manager : IpManager) : Option Text :=
  let start := manager.startIp.ipToInt
  let stop := manager.endIp.ipToInt
  ((List.range' start (stop + 1 - start)).map fun ipInt =>
    (Ipv4.intToIp ipInt).text).find? (· ∉ manager.allocatedIps)

/-- Remove the lease of a MAC, and its address from those in use. -/
def evict (manager : IpManager) (mac : Text) : IpManager :=
  match manager.leasedIps.get? mac with
  | some lease =>
      { manager with
        allocatedIps := manager.allocatedIps.erase lease.ip
        leasedIps := manager.leasedIps.del mac }
  | none => manager

/-- `cleanup_expired_leases` -/
def cleanupExpiredLeases (manager : IpManager) (currentTime : ℚ) : IpManager :=
  let expiredMacs := (manager.leasedIps.filter fun _ lease =>
    decide (lease.expiresAt < currentTime)).keys
  expiredMacs.foldl evict manager

/-- Change the lease of a MAC. -/
def setLease (manager : IpManager) (mac : Text) (lease : Lease) : IpManager :=
  { manager with leasedIps := manager.leasedIps.set mac lease }

/-- `handle_discover`, after the cleanup. -/
def offer
    (manager : IpManager) (mac : Text) (xid : Int) (renewal : ℚ) :
    (Option Text × Int) × IpManager :=
  let expiresAt := renewal + dhcpDefaultLeaseTime
  match manager.leasedIps.get? mac with
  | some lease =>
      if lease.xid = xid then
        ((some lease.ip, dhcpDefaultLeaseTime),
          manager.setLease mac { lease with expiresAt })
      else
        ((some lease.ip, dhcpDefaultLeaseTime),
          manager.setLease mac
            { lease with xid, state := .selecting, expiresAt })
  | none =>
      match manager.getNextAvailableIp with
      | none => ((none, 0), manager)
      | some newIp =>
          ((some newIp, dhcpDefaultLeaseTime),
            { manager with
              allocatedIps := insert newIp manager.allocatedIps
              leasedIps := manager.leasedIps.set mac
                ⟨newIp, xid, expiresAt, .selecting⟩ })

/-- `handle_discover` -/
def handleDiscover
    (manager : IpManager) (mac : Text) (xid : Int) (clock : LeaseClock) :
    (Option Text × Int) × IpManager :=
  (manager.cleanupExpiredLeases clock.cleanup).offer mac xid clock.renewal

/-- `handle_request`, after the cleanup. -/
def grant
    (manager : IpManager) (mac : Text) (xid : Int) (requestedIp : Text)
    (renewal : ℚ) : Bool × IpManager :=
  let expiresAt := renewal + dhcpDefaultLeaseTime
  match manager.leasedIps.get? mac with
  | none => (false, manager)
  | some lease =>
      if lease.ip ≠ requestedIp then (false, manager)
      else if lease.xid = xid ∧ lease.state = .bound then
        (true, manager.setLease mac { lease with expiresAt })
      else if lease.state = .selecting then
        (true, manager.setLease mac
          { lease with xid, state := .bound, expiresAt })
      else (false, manager)

/-- `handle_request` -/
def handleRequest
    (manager : IpManager) (mac : Text) (xid : Int) (requestedIp : Text)
    (clock : LeaseClock) : Bool × IpManager :=
  (manager.cleanupExpiredLeases clock.cleanup).grant mac xid requestedIp
    clock.renewal

end IpManager

end RudpAgentStack
