import RudpAgentStack.Dhcp.LeaseTable

/-!
# Complete allocation

After any run of calls a DISCOVER fails only when no address is left: every one
of the pool is held by a lease that has not expired.  Otherwise a client without
such a lease is given the lowest free address.
-/

namespace RudpAgentStack

open Foundation

/-- The lowest address between the bounds that is not held. -/
def Ipv4.LowestFree
    (startIp endIp : Ipv4) (held : Ipv4 → Prop) (address : Ipv4) : Prop :=
  Between startIp endIp address ∧ ¬ held address ∧
    ∀ lower, Between startIp endIp lower →
      lower.ipToInt < address.ipToInt → held lower

namespace IpManager

variable {manager : IpManager} {mac : Text} {now : ℚ}

/-- The lease of a MAC, unless it has expired. -/
def unexpiredLease (manager : IpManager) (now : ℚ) (mac : Text) :
    Option Lease :=
  (manager.leasedIps.get? mac).filter (now ≤ Lease.expiresAt ·)

/-- The address is held by a lease that has not expired. -/
def Holds (manager : IpManager) (now : ℚ) (address : Ipv4) : Prop :=
  ∃ mac lease, manager.unexpiredLease now mac = some lease ∧
    lease.ip = address.text

/-- The bounds of the pool. -/
def bounds (manager : IpManager) : Ipv4 × Ipv4 :=
  (manager.startIp, manager.endIp)

theorem bounds_evict (manager : IpManager) (mac : Text) :
    (manager.evict mac).bounds = manager.bounds := by
  unfold evict
  split <;> rfl

@[simp] theorem bounds_cleanupExpiredLeases
    (manager : IpManager) (currentTime : ℚ) :
    (manager.cleanupExpiredLeases currentTime).bounds = manager.bounds := by
  unfold cleanupExpiredLeases
  generalize Dict.keys _ = macs
  induction macs generalizing manager with
  | nil => rfl
  | cons mac macs inductionHypothesis =>
      exact (inductionHypothesis _).trans (bounds_evict manager mac)

@[simp] theorem bounds_offer
    (manager : IpManager) (mac : Text) (xid : Int) (renewal : ℚ) :
    (manager.offer mac xid renewal).2.bounds = manager.bounds := by
  unfold offer
  cases manager.leasedIps.get? mac with
  | some lease =>
      dsimp only
      split <;> rfl
  | none => cases manager.getNextAvailableIp <;> rfl

@[simp] theorem bounds_grant
    (manager : IpManager) (mac : Text) (xid : Int) (requestedIp : Text)
    (renewal : ℚ) :
    (manager.grant mac xid requestedIp renewal).2.bounds = manager.bounds := by
  unfold grant
  cases manager.leasedIps.get? mac with
  | none => rfl
  | some lease =>
      dsimp only
      split_ifs <;> rfl

/-- The cleanup leaves the pool as it is. -/
theorem inPool_cleanup (manager : IpManager) (now : ℚ) :
    (manager.cleanupExpiredLeases now).InPool = manager.InPool := by
  obtain ⟨startSame, endSame⟩ :=
    Prod.mk.inj (bounds_cleanupExpiredLeases manager now)
  unfold InPool
  rw [startSame, endSame]

/-! ## One DISCOVER -/

/-- The cleanup leaves the leases that have not expired. -/
theorem get?_cleanup (manager : IpManager) (now : ℚ) (mac : Text) :
    (manager.cleanupExpiredLeases now).leasedIps.get? mac =
      manager.unexpiredLease now mac :=
  get?_cleanupExpiredLeases manager now mac

/-- After the cleanup an address is in use when a lease that has not expired
holds it. -/
theorem mem_allocatedIps_cleanup_iff
    (sound : manager.Sound) (now : ℚ) (address : Ipv4) :
    address.text ∈ (manager.cleanupExpiredLeases now).allocatedIps ↔
      manager.Holds now address := by
  rw [(sound.cleanupExpiredLeases now).allocated.mem_used_iff]
  unfold held Holds
  simp only [get?_cleanup, Option.map_eq_some_iff]

/-- The search after the cleanup finds the lowest address that is not held. -/
theorem getNextAvailableIp_cleanup_eq_some_iff
    (sound : manager.Sound) (now : ℚ) (address : Ipv4) :
    (manager.cleanupExpiredLeases now).getNextAvailableIp =
        some address.text ↔
      Ipv4.LowestFree manager.startIp manager.endIp (manager.Holds now)
        address := by
  rw [getNextAvailableIp_eq_some_iff]
  simp only [mem_allocatedIps_cleanup_iff sound, inPool_cleanup]
  constructor
  · rintro ⟨found, same, lowest⟩
    rw [Ipv4.text_inj same]
    exact lowest
  · intro lowest
    exact ⟨address, rfl, lowest⟩

/-- It finds none when all addresses are held. -/
theorem getNextAvailableIp_cleanup_eq_none_iff
    (sound : manager.Sound) (now : ℚ) :
    (manager.cleanupExpiredLeases now).getNextAvailableIp = none ↔
      ∀ address, manager.InPool address → manager.Holds now address := by
  rw [getNextAvailableIp_eq_none_iff]
  simp only [mem_allocatedIps_cleanup_iff sound, inPool_cleanup]

/-- A client with a lease is offered the address of that. -/
theorem handleDiscover_fst_of_unexpired
    {lease : Lease} {clock : LeaseClock}
    (leased : manager.unexpiredLease clock.cleanup mac = some lease)
    (xid : Int) :
    (manager.handleDiscover mac xid clock).1 =
      (some lease.ip, dhcpDefaultLeaseTime) := by
  rw [← get?_cleanup] at leased
  exact offer_fst_of_held (held_of_get? leased) xid clock.renewal

/-- A client without a lease is offered what the search finds. -/
theorem handleDiscover_fst_of_none
    {clock : LeaseClock}
    (without : manager.unexpiredLease clock.cleanup mac = none) (xid : Int) :
    (manager.handleDiscover mac xid clock).1 =
      match (manager.cleanupExpiredLeases clock.cleanup).getNextAvailableIp with
      | none => (none, 0)
      | some ip => (some ip, dhcpDefaultLeaseTime) := by
  rw [← get?_cleanup] at without
  unfold handleDiscover offer
  rw [without]
  cases (manager.cleanupExpiredLeases clock.cleanup).getNextAvailableIp <;> rfl

/-- A DISCOVER writes no lease but that of its client. -/
theorem get?_offer_of_ne
    (manager : IpManager) {other : Text} (different : other ≠ mac)
    (xid : Int) (renewal : ℚ) :
    (manager.offer mac xid renewal).2.leasedIps.get? other =
      manager.leasedIps.get? other := by
  unfold offer
  cases manager.leasedIps.get? mac with
  | some lease =>
      dsimp only
      split
      · exact Dict.get?_set_of_ne _ _ different
      · exact Dict.get?_set_of_ne _ _ different
  | none =>
      cases manager.getNextAvailableIp with
      | none => rfl
      | some newIp => exact Dict.get?_set_of_ne _ _ different

theorem get?_handleDiscover_of_ne
    (manager : IpManager) {other : Text} (different : other ≠ mac)
    (xid : Int) (clock : LeaseClock) :
    (manager.handleDiscover mac xid clock).2.leasedIps.get? other =
      manager.unexpiredLease clock.cleanup other := by
  unfold handleDiscover
  rw [get?_offer_of_ne _ different, get?_cleanup]

/-- Nothing is offered when the client has no lease and all addresses are
held. -/
theorem handleDiscover_fst_eq_none_iff
    (sound : manager.Sound) (mac : Text) (xid : Int) (clock : LeaseClock) :
    (manager.handleDiscover mac xid clock).1 = (none, 0) ↔
      manager.unexpiredLease clock.cleanup mac = none ∧
        ∀ address, manager.InPool address →
          manager.Holds clock.cleanup address := by
  rw [← getNextAvailableIp_cleanup_eq_none_iff sound]
  cases leased : manager.unexpiredLease clock.cleanup mac with
  | some lease =>
      rw [handleDiscover_fst_of_unexpired leased]
      simp
  | none =>
      rw [handleDiscover_fst_of_none leased]
      cases (manager.cleanupExpiredLeases clock.cleanup).getNextAvailableIp <;>
        simp

/-- A client without a lease is offered the lowest address not held. -/
theorem handleDiscover_fst_eq_some_iff
    (sound : manager.Sound) {clock : LeaseClock}
    (without : manager.unexpiredLease clock.cleanup mac = none) (xid : Int)
    (address : Ipv4) :
    (manager.handleDiscover mac xid clock).1 =
        (some address.text, dhcpDefaultLeaseTime) ↔
      Ipv4.LowestFree manager.startIp manager.endIp
        (manager.Holds clock.cleanup) address := by
  rw [handleDiscover_fst_of_none without,
    ← getNextAvailableIp_cleanup_eq_some_iff sound]
  cases (manager.cleanupExpiredLeases clock.cleanup).getNextAvailableIp <;>
    simp

/-- What is offered is an address of the pool. -/
theorem exists_inPool_of_handleDiscover
    (sound : manager.Sound) {xid : Int} {clock : LeaseClock}
    (offered : (manager.handleDiscover mac xid clock).1 ≠ (none, 0)) :
    ∃ address : Ipv4, manager.InPool address ∧
      (manager.handleDiscover mac xid clock).1 =
        (some address.text, dhcpDefaultLeaseTime) := by
  have pool := inPool_cleanup manager clock.cleanup
  cases leased : manager.unexpiredLease clock.cleanup mac with
  | some lease =>
      rw [handleDiscover_fst_of_unexpired leased]
      rw [← get?_cleanup] at leased
      obtain ⟨address, same, inPool⟩ :=
        (sound.cleanupExpiredLeases clock.cleanup).inPool (held_of_get? leased)
      exact ⟨address, congrFun pool address ▸ inPool, by rw [same]⟩
  | none =>
      rw [handleDiscover_fst_of_none leased] at offered ⊢
      cases found :
          (manager.cleanupExpiredLeases clock.cleanup).getNextAvailableIp with
      | none =>
          rw [found] at offered
          exact absurd rfl offered
      | some ip =>
          obtain ⟨address, same, inPool, _⟩ :=
            getNextAvailableIp_eq_some_iff.mp found
          exact ⟨address, congrFun pool address ▸ inPool, by rw [same]⟩

end IpManager

namespace LeaseCall

variable {manager : IpManager}

/-- Step lemma: no call moves the bounds of the pool. -/
theorem bounds_perform (manager : IpManager) (call : LeaseCall) :
    (call.perform manager).2.bounds = manager.bounds := by
  cases call with
  | discover mac xid clock =>
      exact (IpManager.bounds_offer _ mac xid clock.renewal).trans
        (IpManager.bounds_cleanupExpiredLeases manager clock.cleanup)
  | request mac xid requestedIp clock =>
      exact (IpManager.bounds_grant _ mac xid requestedIp clock.renewal).trans
        (IpManager.bounds_cleanupExpiredLeases manager clock.cleanup)
  | cleanup currentTime =>
      exact IpManager.bounds_cleanupExpiredLeases manager currentTime

/-- Run lemma: nor does a run. -/
theorem bounds_performAll (manager : IpManager) (calls : List LeaseCall) :
    (performAll manager calls).bounds = manager.bounds := by
  induction calls generalizing manager with
  | nil => rfl
  | cons call calls inductionHypothesis =>
      exact (inductionHypothesis _).trans (bounds_perform manager call)

end LeaseCall

/-- After any run, a DISCOVER of a client is left without an address exactly
when the client holds no unexpired lease and every address of the pool is held
by one.  Otherwise it is answered with an address of the pool, to a client
without an unexpired lease the lowest one not held, and the unexpired leases of
all other clients stay as they are. -/
theorem handleDiscover_complete
    (startIp endIp : Ipv4) (calls : List LeaseCall) (mac : Text) (xid : Int)
    (clock : LeaseClock) :
    let manager := LeaseCall.performAll { startIp, endIp } calls
    let answer := (manager.handleDiscover mac xid clock).1
    let after := (manager.handleDiscover mac xid clock).2
    (answer = (none, 0) ↔
      manager.unexpiredLease clock.cleanup mac = none ∧
        ∀ address, Ipv4.Between startIp endIp address →
          manager.Holds clock.cleanup address) ∧
      (answer ≠ (none, 0) → ∃ address : Ipv4,
        Ipv4.Between startIp endIp address ∧
          answer = (some address.text, dhcpDefaultLeaseTime)) ∧
      (manager.unexpiredLease clock.cleanup mac = none → ∀ address : Ipv4,
        answer = (some address.text, dhcpDefaultLeaseTime) ↔
          Ipv4.LowestFree startIp endIp (manager.Holds clock.cleanup)
            address) ∧
      ∀ other lease, other ≠ mac →
        manager.unexpiredLease clock.cleanup other = some lease →
        after.leasedIps.get? other = some lease := by
  intro manager answer after
  have sound : manager.Sound := LeaseCall.sound_performAll (.new _ _) calls
  have bounds : manager.bounds = (startIp, endIp) :=
    LeaseCall.bounds_performAll _ calls
  obtain ⟨startSame, endSame⟩ := Prod.mk.inj bounds
  have pool : manager.InPool = Ipv4.Between startIp endIp := by
    unfold IpManager.InPool
    rw [startSame, endSame]
  refine ⟨?_, ?_, ?_, ?_⟩
  · rw [← pool]
    exact IpManager.handleDiscover_fst_eq_none_iff sound mac xid clock
  · rw [← pool]
    exact IpManager.exists_inPool_of_handleDiscover sound
  · intro without address
    rw [← startSame, ← endSame]
    exact IpManager.handleDiscover_fst_eq_some_iff sound without xid address
  · intro other lease different leased
    rw [← leased]
    exact IpManager.get?_handleDiscover_of_ne manager different xid clock

/-- The search carries from one number of an address into the next. -/
example :
    let manager := LeaseCall.performAll
      { startIp := ⟨10, 0, 0, 255⟩, endIp := ⟨10, 0, 1, 0⟩ }
      [.discover "A1" 1 ⟨0, 0⟩]
    (manager.handleDiscover "A2" 2 ⟨1, 1⟩).1 =
      (some (Text.ofString "10.0.1.0"), dhcpDefaultLeaseTime) := by
  decide +kernel

end RudpAgentStack
