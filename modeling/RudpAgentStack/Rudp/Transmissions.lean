import RudpAgentStack.Rudp.SenderCalls

/-!
# The transmissions of a run

Every call of `send_callback` with its time and the state of the sender at that
moment.  `_try_send` is the only place where a packet is transmitted for the
first time; whatever else is handed over is a retransmission.
-/

namespace RudpAgentStack

open Foundation

/-- One call of `send_callback`. -/
structure Transmission where
  packet : RUDPPacket
  time : ℚ
  /-- Whether `_try_send` made the call. -/
  isFirst : Bool
  /-- The sender at that moment. -/
  sender : RUDPSender

namespace RUDPSender

/-- The transmissions of the loop of `_try_send`, which updates the unacked map
and the bytes in flight before it calls `send_callback`. -/
def trySendTransmissions (currentTime : ℚ) :
    List RUDPPacket → RUDPSender → List Transmission
  | [], _ => []
  | packet :: rest, sender =>
      let nextLen : Int := packet.payload.length
      if sender.cwnd < ((sender.inflightBytes + nextLen : Int) : ℚ) then []
      else
        let sender := { sender with effectiveWindow := sender.window }
        if sender.effectiveWindow ≤ sender.unackedPackets.size then []
        else
          let sender := sender.transmit packet rest currentTime
          { packet := packet
            time := currentTime
            isFirst := true
            sender := sender } ::
          trySendTransmissions currentTime rest sender

/-- The transmissions of one call. -/
def transmissions (sender : RUDPSender) (call : Call) : List Transmission :=
  match sender.beforeTrySend call with
  | some ready =>
      trySendTransmissions call.time ready.sendBuffer ready
  | none =>
      (sender.perform call).2.map fun packet =>
        { packet := packet
          time := call.time
          isFirst := false
          sender := (sender.perform call).1 }

/-- Loop rule for the transmissions of `_try_send`. -/
theorem trySendTransmissions_rule
    (Invariant : RUDPSender → List Transmission → Prop)
    {currentTime : ℚ}
    (widened : ∀ sender log window, Invariant sender log →
      Invariant { sender with effectiveWindow := window } log)
    (transmitted : ∀ sender log packet rest, Invariant sender log →
      sender.sendBuffer = packet :: rest → sender.Admits packet →
      Invariant (sender.transmit packet rest currentTime)
        (log ++ [{ packet := packet
                   time := currentTime
                   isFirst := true
                   sender := sender.transmit packet rest currentTime }]))
    {sender : RUDPSender}
    (initial : Invariant sender []) :
    Invariant (sender.trySend currentTime).1
      (trySendTransmissions currentTime sender.sendBuffer sender) := by
  have loop : ∀ buffer sender log, sender.sendBuffer = buffer →
      Invariant sender log →
      Invariant (trySendLoop currentTime buffer sender).1
        (log ++ trySendTransmissions currentTime buffer sender) := by
    intro buffer
    induction buffer with
    | nil =>
        intro sender log _ holds
        simpa [trySendLoop, trySendTransmissions] using holds
    | cons packet rest inductionHypothesis =>
        intro sender log buffered holds
        simp only [trySendLoop, trySendTransmissions]
        split
        · simpa using holds
        · next bytes =>
          split
          · simpa using widened sender log _ holds
          · next segments =>
            have next := transmitted _ log packet rest
              (widened sender log sender.window holds) buffered
              ⟨not_lt.mp bytes, not_le.mp segments⟩
            simpa using inductionHypothesis _ _ rfl next
  simpa [trySend] using loop sender.sendBuffer sender [] rfl initial

/-- The transmissions of `_try_send` are the packets it hands over. -/
theorem map_packet_trySendTransmissions
    (currentTime : ℚ) (buffer : List RUDPPacket) (sender : RUDPSender) :
    (trySendTransmissions currentTime buffer sender).map Transmission.packet =
      (trySendLoop currentTime buffer sender).2 := by
  induction buffer generalizing sender with
  | nil => rfl
  | cons packet rest inductionHypothesis =>
      simp only [trySendTransmissions, trySendLoop]
      split
      · rfl
      · split
        · rfl
        · simp [inductionHypothesis]

/-- The transmissions of a call are the packets it hands over. -/
theorem map_packet_transmissions (sender : RUDPSender) (call : Call) :
    (sender.transmissions call).map Transmission.packet =
      (sender.perform call).2 := by
  unfold transmissions
  split
  · next ready reached =>
      rw [map_packet_trySendTransmissions, perform_of_beforeTrySend reached]
      rfl
  · simp [Function.comp_def]

/-! ## Runs -/

namespace Run

/-- The transmissions of further calls. -/
def transmissionsFrom (run : Run) : List Call → List Transmission
  | [] => []
  | call :: calls =>
      run.sender.transmissions call ++ (run.next call).transmissionsFrom calls

/-- The transmissions of a new sender in a list of calls. -/
def transmissions (windowSize : Int) (calls : List Call) :
    List Transmission :=
  (machine windowSize).start.transmissionsFrom calls

theorem transmissionsFrom_append
    (run : Run) (calls later : List Call) :
    run.transmissionsFrom (calls ++ later) =
      run.transmissionsFrom calls ++
        (calls.foldl Run.next run).transmissionsFrom later := by
  induction calls generalizing run with
  | nil => rfl
  | cons call calls inductionHypothesis =>
      simp [transmissionsFrom, inductionHypothesis]

/-- The transmissions of a run go on where it stopped. -/
theorem transmissions_append
    (windowSize : Int) (calls later : List Call) :
    transmissions windowSize (calls ++ later) =
      transmissions windowSize calls ++
        (after windowSize calls).transmissionsFrom later :=
  transmissionsFrom_append _ calls later

theorem transmissions_append_singleton
    (windowSize : Int) (calls : List Call) (call : Call) :
    transmissions windowSize (calls ++ [call]) =
      transmissions windowSize calls ++
        (after windowSize calls).sender.transmissions call := by
  simp [transmissions_append, transmissionsFrom]

/-- The transmissions of a run are the packets it has handed over. -/
theorem map_packet_transmissions (windowSize : Int) (calls : List Call) :
    (transmissions windowSize calls).map Transmission.packet =
      (after windowSize calls).handed := by
  induction calls using List.reverseRecOn with
  | nil => rfl
  | append_singleton calls call inductionHypothesis =>
      rw [transmissions_append_singleton, after_append_singleton, handed_next,
        List.map_append, inductionHypothesis,
        RUDPSender.map_packet_transmissions]

end Run

end RUDPSender

end RudpAgentStack
