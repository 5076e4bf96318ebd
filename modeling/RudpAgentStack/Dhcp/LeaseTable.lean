import RudpAgentStack.Dhcp.IpManager
import RudpAgentStack.Foundation.Allocation
import Mathlib.Order.Fin.Basic

/-!
# The lease table

The leases and the addresses in use are kept in step: no address is leased
twice, those in use are those leased, and all are in the pool.  Until the lease
of a client expires, the client is offered and granted its address and no
other.
-/

namespace RudpAgentStack

open Foundation

/-! ## Addresses as numbers -/

namespace Ipv4

theorem ipToInt_lt (address : Ipv4) : address.ipToInt < 2 ^ 32 := by
  obtain ⟨first, second, third, fourth⟩ := address
  simp only [ipToInt, Nat.shiftLeft_eq]
  omega

theorem ipToInt_intToIp {ipInt : Nat} (small : ipInt < 2 ^ 32) :
    (intToIp ipInt).ipToInt = ipInt := by
  simp only [intToIp, ipToInt, Fin.val_ofNat, Nat.shiftLeft_eq,
    Nat.shiftRight_eq_div_pow]
  omega

/-- Every address is the one of its number. -/
@[simp] theorem intToIp_ipToInt (address : Ipv4) :
    intToIp address.ipToInt = address := by
  obtain ⟨first, second, third, fourth⟩ := address
  have firstSmall := first.isLt
  have secondSmall := second.isLt
  have thirdSmall := third.isLt
  have fourthSmall := fourth.isLt
  simp only [intToIp, ipToInt, mk.injEq, Prod.mk.injEq, Fin.ext_iff,
    Fin.val_ofNat, Nat.shiftLeft_eq, Nat.shiftRight_eq_div_pow]
  omega

/-- Different addresses have different dotted forms. -/
theorem text_inj {address other : Ipv4}
    (same : address.text = other.text) : address = other := by
  obtain ⟨first, second, third, fourth⟩ := address
  obtain ⟨first', second', third', fourth'⟩ := other
  have dot : ∀ rest : Text, Text.ofString "." ++ rest = 0x2E :: rest :=
    fun _ => rfl
  simp only [text, List.append_assoc, dot] at same
  obtain ⟨firstSame, same⟩ := Text.ofInt_append_inj (by decide) same
  obtain ⟨secondSame, same⟩ := Text.ofInt_append_inj (by decide) same
  obtain ⟨thirdSame, same⟩ := Text.ofInt_append_inj (by decide) same
  have fourthSame := Text.ofInt_inj same
  rw [Fin.ext firstSame, Fin.ext secondSame, Fin.ext thirdSame,
    Fin.ext fourthSame]

/-- The address lies between the bounds of a pool, themselves included. -/
def Between (startIp endIp address : Ipv4) : Prop :=
  startIp.ipToInt ≤ address.ipToInt ∧ address.ipToInt ≤ endIp.ipToInt

end Ipv4

namespace IpManager

variable {manager : IpManager} {mac : Text}

/-! ## Leases after each operation -/

/-- The address leased to a MAC. -/
def held (manager : IpManager) (mac : Text) : Option Text :=
  (manager.leasedIps.get? mac).map Lease.ip

theorem held_of_get?
    {lease : Lease} (leased : manager.leasedIps.get? mac = some lease) :
    manager.held mac = some lease.ip := by
  rw [held, leased, Option.map_some]

theorem get?_evict (manager : IpManager) (mac other : Text) :
    (manager.evict mac).leasedIps.get? other =
      if other = mac then none else manager.leasedIps.get? other := by
  unfold evict
  cases leased : manager.leasedIps.get? mac with
  | none =>
      by_cases same : other = mac
      · rw [if_pos same, same]
        exact leased
      · rw [if_neg same]
  | some lease => exact Dict.get?_del _ _ _

theorem get?_foldl_evict
    (macs : List Text) (manager : IpManager) (mac : Text) :
    (macs.foldl evict manager).leasedIps.get? mac =
      if mac ∈ macs then none else manager.leasedIps.get? mac := by
  induction macs generalizing manager with
  | nil => rfl
  | cons head macs inductionHypothesis =>
      rw [List.foldl_cons, inductionHypothesis, get?_evict]
      by_cases isHead : mac = head <;> by_cases later : mac ∈ macs <;>
        simp [isHead, later]

/-- The cleanup removes the leases whose time of expiry has passed. -/
theorem get?_cleanupExpiredLeases
    (manager : IpManager) (currentTime : ℚ) (mac : Text) :
    (manager.cleanupExpiredLeases currentTime).leasedIps.get? mac =
      (manager.leasedIps.get? mac).filter
        (currentTime ≤ Lease.expiresAt ·) := by
  have isExpired : mac ∈ (manager.leasedIps.filter fun _ lease =>
      decide (lease.expiresAt < currentTime)).keys ↔
        ∃ lease, manager.leasedIps.get? mac = some lease ∧
          lease.expiresAt < currentTime := by
    refine (Dict.mem_iff_exists_get? _ _).trans ?_
    simp [Option.filter_eq_some_iff]
  unfold cleanupExpiredLeases
  rw [get?_foldl_evict]
  simp only [isExpired]
  cases manager.leasedIps.get? mac with
  | none => simp
  | some lease =>
      by_cases expired : lease.expiresAt < currentTime
      · simp [expired, Option.filter_some, not_le.mpr expired]
      · simp [expired, Option.filter_some, not_lt.mp expired]

theorem held_setLease
    (manager : IpManager) (mac : Text) {lease changed : Lease}
    (leased : manager.leasedIps.get? mac = some lease)
    (sameIp : changed.ip = lease.ip) :
    (manager.setLease mac changed).held = manager.held := by
  funext other
  unfold held setLease
  rw [Dict.get?_set]
  split
  · next same => rw [same, leased, Option.map_some, Option.map_some, sameIp]
  · rfl

/-! ## The search for an address -/

/-- The address lies in the pool. -/
def InPool (manager : IpManager) (address : Ipv4) : Prop :=
  Ipv4.Between manager.startIp manager.endIp address

theorem getNextAvailableIp_eq_find? (manager : IpManager) :
    manager.getNextAvailableIp =
      ((List.range' manager.startIp.ipToInt
          (manager.endIp.ipToInt + 1 - manager.startIp.ipToInt)).find?
        fun ipInt =>
          decide ((Ipv4.intToIp ipInt).text ∉ manager.allocatedIps)).map
        fun ipInt => (Ipv4.intToIp ipInt).text :=
  List.find?_map ..

/-- Nothing is found when all addresses of the pool are in use. -/
theorem getNextAvailableIp_eq_none_iff :
    manager.getNextAvailableIp = none ↔
      ∀ address, manager.InPool address →
        address.text ∈ manager.allocatedIps := by
  rw [getNextAvailableIp_eq_find?, Option.map_eq_none_iff,
    List.find?_range'_eq_none]
  constructor
  · intro inUse address inPool
    have used := inUse address.ipToInt inPool.1 (by have := inPool.2; omega)
    simpa using used
  · intro inUse ipInt low high
    have bounded := manager.endIp.ipToInt_lt
    have number := @Ipv4.ipToInt_intToIp ipInt (by omega)
    have used := inUse (Ipv4.intToIp ipInt)
      ⟨by rw [number]; exact low, by rw [number]; omega⟩
    simpa using used

/-- What is found is the lowest address of the pool that is not in use. -/
theorem getNextAvailableIp_eq_some_iff {ip : Text} :
    manager.getNextAvailableIp = some ip ↔
      ∃ address, ip = address.text ∧ manager.InPool address ∧
        address.text ∉ manager.allocatedIps ∧
        ∀ lower, manager.InPool lower → lower.ipToInt < address.ipToInt →
          lower.text ∈ manager.allocatedIps := by
  rw [getNextAvailableIp_eq_find?, Option.map_eq_some_iff]
  have bounded := manager.endIp.ipToInt_lt
  constructor
  · rintro ⟨ipInt, found, rfl⟩
    rw [List.find?_range'_eq_some, List.mem_range'_1] at found
    obtain ⟨free, ⟨low, high⟩, first⟩ := found
    have number := @Ipv4.ipToInt_intToIp ipInt (by omega)
    refine ⟨Ipv4.intToIp ipInt, rfl, ⟨?_, ?_⟩, by simpa using free, ?_⟩
    · rw [number]
      exact low
    · rw [number]
      omega
    · intro lower inPool below
      rw [number] at below
      simpa using first lower.ipToInt inPool.1 below
  · rintro ⟨address, same, inPool, free, first⟩
    refine ⟨address.ipToInt, ?_, by rw [Ipv4.intToIp_ipToInt, same]⟩
    rw [List.find?_range'_eq_some, List.mem_range'_1]
    refine ⟨by simpa using free, ⟨inPool.1, ?_⟩, ?_⟩
    · have := inPool.2
      omega
    · intro ipInt low below
      have high := inPool.2
      have number := @Ipv4.ipToInt_intToIp ipInt (by omega)
      have used := first (Ipv4.intToIp ipInt)
        ⟨by rw [number]; exact low, by rw [number]; omega⟩
        (by rw [number]; exact below)
      simpa using used

/-! ## The invariant -/

/-- No address is leased twice, the addresses in use are those leased, and all
of them are in the pool. -/
structure Sound (manager : IpManager) : Prop where
  allocated : Allocated manager.held manager.allocatedIps
  inPool : ∀ {mac ip}, manager.held mac = some ip →
    ∃ address : Ipv4, ip = address.text ∧
      manager.startIp.ipToInt ≤ address.ipToInt ∧
      address.ipToInt ≤ manager.endIp.ipToInt

namespace Sound

theorem new (startIp endIp : Ipv4) :
    Sound { startIp, endIp } := by
  refine ⟨?_, ?_⟩
  · have nothing : held { startIp, endIp } = fun _ => none := by
      funext mac
      rw [held, Dict.get?_empty, Option.map_none]
    rw [nothing]
    exact Allocated.empty
  · intro mac ip holds
    rw [held, Dict.get?_empty] at holds
    cases holds

theorem evict (sound : manager.Sound) (mac : Text) :
    (manager.evict mac).Sound := by
  unfold IpManager.evict
  cases leased : manager.leasedIps.get? mac with
  | none => exact sound
  | some lease =>
      have released : held { manager with
          allocatedIps := manager.allocatedIps.erase lease.ip
          leasedIps := manager.leasedIps.del mac } =
          Function.update manager.held mac none := by
        funext other
        rw [held, Dict.get?_del, Function.update_apply]
        split <;> rfl
      refine ⟨?_, ?_⟩
      · rw [released]
        exact sound.allocated.release (held_of_get? leased)
      · intro other ip holds
        rw [released, Function.update_apply] at holds
        split at holds
        · cases holds
        · exact sound.inPool holds

theorem cleanupExpiredLeases
    (sound : manager.Sound) (currentTime : ℚ) :
    (manager.cleanupExpiredLeases currentTime).Sound := by
  unfold IpManager.cleanupExpiredLeases
  generalize Dict.keys _ = macs
  induction macs generalizing manager with
  | nil => exact sound
  | cons mac macs inductionHypothesis =>
      exact inductionHypothesis (sound.evict mac)

/-- A lease changes, but not its address. -/
theorem setLease
    (sound : manager.Sound) {lease changed : Lease}
    (leased : manager.leasedIps.get? mac = some lease)
    (sameIp : changed.ip = lease.ip) :
    (manager.setLease mac changed).Sound := by
  have same := held_setLease manager mac leased sameIp
  exact ⟨same ▸ sound.allocated,
    fun holds => sound.inPool (congrFun same _ ▸ holds)⟩

theorem offer
    (sound : manager.Sound) (mac : Text) (xid : Int) (renewal : ℚ) :
    (manager.offer mac xid renewal).2.Sound := by
  unfold IpManager.offer
  cases leased : manager.leasedIps.get? mac with
  | some lease =>
      dsimp only
      split
      · exact sound.setLease leased rfl
      · exact sound.setLease leased rfl
  | none =>
      cases found : manager.getNextAvailableIp with
      | none => exact sound
      | some newIp =>
          obtain ⟨address, same, pooled, free, _⟩ :=
            getNextAvailableIp_eq_some_iff.mp found
          rw [← same] at free
          have without : manager.held mac = none := by
            rw [held, leased, Option.map_none]
          have claimed : held { manager with
              allocatedIps := insert newIp manager.allocatedIps
              leasedIps := manager.leasedIps.set mac
                ⟨newIp, xid, renewal + dhcpDefaultLeaseTime, .selecting⟩ } =
              Function.update manager.held mac (some newIp) := by
            funext other
            rw [held, Dict.get?_set, Function.update_apply]
            split <;> rfl
          refine ⟨?_, ?_⟩
          · rw [claimed]
            exact sound.allocated.claim free without
          · intro other ip holds
            rw [claimed, Function.update_apply] at holds
            split at holds
            · cases holds
              exact ⟨address, same, pooled⟩
            · exact sound.inPool holds

theorem grant
    (sound : manager.Sound) (mac : Text) (xid : Int) (requestedIp : Text)
    (renewal : ℚ) :
    (manager.grant mac xid requestedIp renewal).2.Sound := by
  unfold IpManager.grant
  cases leased : manager.leasedIps.get? mac with
  | none => exact sound
  | some lease =>
      dsimp only
      split
      · exact sound
      · split
        · exact sound.setLease leased rfl
        · split
          · exact sound.setLease leased rfl
          · exact sound

end Sound

/-! ## Leases that have not expired -/

/-- The cleanup keeps a lease that has not expired. -/
theorem get?_cleanup_of_unexpired
    {lease : Lease} {currentTime : ℚ}
    (leased : manager.leasedIps.get? mac = some lease)
    (unexpired : currentTime ≤ lease.expiresAt) :
    (manager.cleanupExpiredLeases currentTime).leasedIps.get? mac =
      some lease := by
  rw [get?_cleanupExpiredLeases, leased, Option.filter_some,
    if_pos (by simpa using unexpired)]

/-- A DISCOVER is answered with the address of its client, if it has one. -/
theorem offer_fst_of_held
    {ip : Text} (holds : manager.held mac = some ip) (xid : Int)
    (renewal : ℚ) :
    (manager.offer mac xid renewal).1 = (some ip, dhcpDefaultLeaseTime) := by
  obtain ⟨lease, leased, rfl⟩ := Option.map_eq_some_iff.mp holds
  unfold offer
  rw [leased]
  dsimp only
  split <;> rfl

/-- No DISCOVER takes an address away. -/
theorem held_offer
    {ip : Text} (holds : manager.held mac = some ip) (other : Text)
    (xid : Int) (renewal : ℚ) :
    (manager.offer other xid renewal).2.held mac = some ip := by
  unfold offer
  cases leased : manager.leasedIps.get? other with
  | some lease =>
      dsimp only
      split
      · refine (congrFun (held_setLease _ _ leased ?_) mac).trans holds
        rfl
      · refine (congrFun (held_setLease _ _ leased ?_) mac).trans holds
        rfl
  | none =>
      cases manager.getNextAvailableIp with
      | none => exact holds
      | some newIp =>
          have different : mac ≠ other := by
            rintro rfl
            rw [held, leased] at holds
            cases holds
          change ((manager.leasedIps.set other _).get? mac).map Lease.ip = _
          rw [Dict.get?_set, if_neg different]
          exact holds

/-- A REQUEST changes no address. -/
theorem held_grant
    (manager : IpManager) (mac : Text) (xid : Int) (requestedIp : Text)
    (renewal : ℚ) :
    (manager.grant mac xid requestedIp renewal).2.held = manager.held := by
  unfold grant
  cases leased : manager.leasedIps.get? mac with
  | none => rfl
  | some lease =>
      dsimp only
      split
      · rfl
      · split
        · exact held_setLease _ _ leased rfl
        · split
          · exact held_setLease _ _ leased rfl
          · rfl

/-- A REQUEST is granted for the address that its client has. -/
theorem held_of_grant
    {xid : Int} {requestedIp : Text} {renewal : ℚ}
    (granted : (manager.grant mac xid requestedIp renewal).1 = true) :
    manager.held mac = some requestedIp := by
  unfold grant at granted
  cases leased : manager.leasedIps.get? mac with
  | none =>
      rw [leased] at granted
      cases granted
  | some lease =>
      rw [leased] at granted
      dsimp only at granted
      split at granted
      · cases granted
      · next same =>
          rw [held_of_get? leased, not_not.mp same]

end IpManager

/-! ## Runs -/

/-- A call of the manager. -/
inductive LeaseCall
  | discover (mac : Text) (xid : Int) (clock : LeaseClock)
  | request (mac : Text) (xid : Int) (requestedIp : Text) (clock : LeaseClock)
  | cleanup (currentTime : ℚ)

namespace LeaseCall

/-- What a call returns. -/
inductive Reply
  | offered (ip : Option Text) (leaseTime : Int)
  | verdict (granted : Bool)
  | done
  deriving DecidableEq

/-- The time that expired leases are looked for with. -/
def checkedAt : LeaseCall → ℚ
  | .discover _ _ clock => clock.cleanup
  | .request _ _ _ clock => clock.cleanup
  | .cleanup currentTime => currentTime

/-- Carry a call out. -/
def perform (manager : IpManager) : LeaseCall → Reply × IpManager
  | .discover mac xid clock =>
      let ((ip, leaseTime), after) := manager.handleDiscover mac xid clock
      (.offered ip leaseTime, after)
  | .request mac xid requestedIp clock =>
      let (granted, after) := manager.handleRequest mac xid requestedIp clock
      (.verdict granted, after)
  | .cleanup currentTime => (.done, manager.cleanupExpiredLeases currentTime)

/-- The manager after a list of calls. -/
def performAll (manager : IpManager) (calls : List LeaseCall) : IpManager :=
  calls.foldl (fun manager call => (call.perform manager).2) manager

theorem performAll_append
    (manager : IpManager) (calls more : List LeaseCall) :
    performAll manager (calls ++ more) =
      performAll (performAll manager calls) more :=
  List.foldl_append

/-- What the call returned names no other address for the MAC. -/
def Names (mac ip : Text) (call : LeaseCall) (reply : Reply) : Prop :=
  match call with
  | .discover asking _ _ =>
      asking = mac → reply = .offered (some ip) dhcpDefaultLeaseTime
  | .request asking _ requestedIp _ =>
      asking = mac → reply = .verdict true → requestedIp = ip
  | .cleanup _ => True

/-- Before each of the calls, the lease of the MAC has not expired. -/
def Unexpired (mac : Text) (manager : IpManager) (calls : List LeaseCall) :
    Prop :=
  ∀ earlier call, earlier ++ [call] <+: calls → ∀ lease,
    (performAll manager earlier).leasedIps.get? mac = some lease →
    call.checkedAt ≤ lease.expiresAt

variable {manager : IpManager} {mac : Text}

theorem Unexpired.nil : Unexpired mac manager [] :=
  fun _ _ isPrefix => absurd (List.prefix_nil.mp isPrefix) (by simp)

theorem Unexpired.concat
    {calls : List LeaseCall} {call : LeaseCall}
    (unexpired : Unexpired mac manager calls)
    (next : ∀ lease,
      (performAll manager calls).leasedIps.get? mac = some lease →
      call.checkedAt ≤ lease.expiresAt) :
    Unexpired mac manager (calls ++ [call]) := by
  intro earlier other isPrefix
  rcases List.prefix_concat_iff.mp isPrefix with same | isEarlier
  · obtain ⟨rfl, rfl⟩ := List.append_singleton_inj.mp same
    exact next
  · exact unexpired earlier other isEarlier

/-- Step lemma: every call keeps the table sound. -/
theorem sound_perform (sound : manager.Sound) (call : LeaseCall) :
    (call.perform manager).2.Sound := by
  cases call with
  | discover mac xid clock =>
      exact (sound.cleanupExpiredLeases clock.cleanup).offer mac xid _
  | request mac xid requestedIp clock =>
      exact (sound.cleanupExpiredLeases clock.cleanup).grant mac xid _ _
  | cleanup currentTime => exact sound.cleanupExpiredLeases currentTime

/-- Run lemma: every run of calls keeps the table sound. -/
theorem sound_performAll (sound : manager.Sound) (calls : List LeaseCall) :
    (performAll manager calls).Sound := by
  induction calls generalizing manager with
  | nil => exact sound
  | cons call calls inductionHypothesis =>
      exact inductionHypothesis (sound_perform sound call)

/-- Step lemma: a call keeps a lease that has not expired, and names its
address only. -/
theorem held_perform
    {lease : Lease} {call : LeaseCall}
    (leased : manager.leasedIps.get? mac = some lease)
    (unexpired : call.checkedAt ≤ lease.expiresAt) :
    (call.perform manager).2.held mac = some lease.ip ∧
      Names mac lease.ip call (call.perform manager).1 := by
  have holds : (manager.cleanupExpiredLeases call.checkedAt).held mac =
      some lease.ip := IpManager.held_of_get?
    (IpManager.get?_cleanup_of_unexpired leased unexpired)
  cases call with
  | discover asking xid clock =>
      refine ⟨IpManager.held_offer holds asking xid _, ?_⟩
      rintro rfl
      have offered := IpManager.offer_fst_of_held holds xid clock.renewal
      change Reply.offered
        ((manager.cleanupExpiredLeases clock.cleanup).offer asking xid
          clock.renewal).1.1
        ((manager.cleanupExpiredLeases clock.cleanup).offer asking xid
          clock.renewal).1.2 = _
      change ((manager.cleanupExpiredLeases clock.cleanup).offer asking xid
        clock.renewal).1 = _ at offered
      rw [offered]
  | request asking xid requestedIp clock =>
      refine ⟨?_, ?_⟩
      · exact (congrFun (IpManager.held_grant _ _ _ _ _) mac).trans holds
      · rintro rfl granted
        have requested := IpManager.held_of_grant (Reply.verdict.inj granted)
        exact Option.some.inj (requested.symm.trans holds)
  | cleanup currentTime => exact ⟨holds, trivial⟩

/-- Run lemma: calls keep a lease that does not expire. -/
theorem held_performAll
    {ip : Text} {calls : List LeaseCall}
    (holds : manager.held mac = some ip)
    (unexpired : Unexpired mac manager calls) :
    (performAll manager calls).held mac = some ip := by
  induction calls using List.reverseRecOn with
  | nil => exact holds
  | append_singleton calls call inductionHypothesis =>
      have before := inductionHypothesis fun earlier other isPrefix =>
        unexpired earlier other (isPrefix.trans (List.prefix_append _ _))
      obtain ⟨lease, leased, rfl⟩ := Option.map_eq_some_iff.mp before
      rw [performAll_append]
      exact (held_perform leased
        (unexpired calls call (List.prefix_refl _) lease leased)).1

end LeaseCall

/-- In every run of a manager the table is sound, and while the lease of a MAC
does not expire, the MAC is offered and granted the address of that lease
only. -/
theorem leaseTable_sound (startIp endIp : Ipv4) (calls : List LeaseCall) :
    (LeaseCall.performAll { startIp, endIp } calls).Sound ∧
      ∀ mac earlier later call,
        earlier ++ later ++ [call] <+: calls →
        ∀ lease,
          (LeaseCall.performAll { startIp, endIp } earlier).leasedIps.get?
            mac = some lease →
          LeaseCall.Unexpired mac
            (LeaseCall.performAll { startIp, endIp } earlier)
            (later ++ [call]) →
          LeaseCall.Names mac lease.ip call
            (call.perform (LeaseCall.performAll { startIp, endIp }
              (earlier ++ later))).1 := by
  refine ⟨LeaseCall.sound_performAll (.new startIp endIp) calls, ?_⟩
  intro mac earlier later call _ lease leased unexpired
  have holds := LeaseCall.held_performAll (IpManager.held_of_get? leased)
    fun before other isPrefix =>
      unexpired before other (isPrefix.trans (List.prefix_append _ _))
  obtain ⟨current, currentLeased, sameIp⟩ := Option.map_eq_some_iff.mp holds
  rw [LeaseCall.performAll_append, ← sameIp]
  exact (LeaseCall.held_perform currentLeased
    (unexpired later call (List.prefix_refl _) current currentLeased)).2

/-! ## A sample run -/

namespace Sample

/-- A pool of two addresses. -/
def pool : IpManager :=
  { startIp := ⟨127, 0, 0, 2⟩, endIp := ⟨127, 0, 0, 3⟩ }

/-- Two clients ask for an address, and the first asks again. -/
def leaseCalls : List LeaseCall :=
  [.discover "A1" 1 ⟨0, 0⟩, .discover "A2" 2 ⟨1, 1⟩, .discover "A1" 9 ⟨2, 2⟩]

/-- The lease of the first client. -/
def lease : Lease := ⟨"127.0.0.2", 1, 3600, .selecting⟩

theorem leased_first :
    (LeaseCall.performAll pool (leaseCalls.take 1)).leasedIps.get? "A1" =
      some lease := by
  decide +kernel

theorem leased_second :
    (LeaseCall.performAll (LeaseCall.performAll pool (leaseCalls.take 1))
      [.discover "A2" 2 ⟨1, 1⟩]).leasedIps.get? "A1" = some lease := by
  decide +kernel

theorem lease_unexpired :
    LeaseCall.Unexpired "A1" (LeaseCall.performAll pool (leaseCalls.take 1))
      ([.discover "A2" 2 ⟨1, 1⟩] ++ [.discover "A1" 9 ⟨2, 2⟩]) := by
  have first : LeaseCall.Unexpired "A1"
      (LeaseCall.performAll pool (leaseCalls.take 1))
      ([] ++ [.discover "A2" 2 ⟨1, 1⟩]) := by
    refine LeaseCall.Unexpired.concat .nil fun found isFound => ?_
    obtain rfl := Option.some.inj (leased_first.symm.trans isFound)
    decide
  refine LeaseCall.Unexpired.concat first fun found isFound => ?_
  obtain rfl := Option.some.inj (leased_second.symm.trans isFound)
  decide

end Sample

/-- A client that asks again, under another xid and after another client, is
offered its address again. -/
theorem leaseTable_sound_askedAgain :
    LeaseCall.Names "A1" "127.0.0.2" (.discover "A1" 9 ⟨2, 2⟩)
      ((LeaseCall.discover "A1" 9 ⟨2, 2⟩).perform
        (LeaseCall.performAll Sample.pool
          (Sample.leaseCalls.take 1 ++ [.discover "A2" 2 ⟨1, 1⟩]))).1 :=
  (leaseTable_sound ⟨127, 0, 0, 2⟩ ⟨127, 0, 0, 3⟩ Sample.leaseCalls).2 "A1"
    (Sample.leaseCalls.take 1) [.discover "A2" 2 ⟨1, 1⟩]
    (.discover "A1" 9 ⟨2, 2⟩) (List.prefix_refl _) Sample.lease
    Sample.leased_first Sample.lease_unexpired

end RudpAgentStack
