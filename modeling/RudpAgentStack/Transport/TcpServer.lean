import RudpAgentStack.Agent.AtMostOnce
import RudpAgentStack.Agent.Envelopes
import RudpAgentStack.Foundation.Inflow

/-!
# Connections of the agent server

`TCPServerTransport.receive_exact` and `AgentServer._handle_connection`.
Messages sent one after the other are handled one after the other, however the
stream is cut, up to the first one that is not complete.
-/

namespace RudpAgentStack

open Foundation

namespace TcpServerTransport

/-- The loop of `receive_exact`, given what is in the buffer. -/
def receiveExactFrom (nbytes : Nat) (buf : Bytes) (conn : Inflow UInt8) :
    Option Bytes × Inflow UInt8 :=
  if buf.length < nbytes then
    match conn.recv (nbytes - buf.length) with
    | ([], conn) => (none, conn)
    | (byte :: chunk, conn) =>
        receiveExactFrom nbytes (buf ++ byte :: chunk) conn
  else (some buf, conn)
termination_by nbytes - buf.length
decreasing_by
  rw [List.length_append, List.length_cons]
  omega

/-- `receive_exact`; there is no result if the connection is closed before
enough bytes have arrived. -/
def receiveExact (nbytes : Nat) (conn : Inflow UInt8) :
    Option Bytes × Inflow UInt8 :=
  receiveExactFrom nbytes [] conn

/-- The loop takes the missing bytes, if they arrive. -/
theorem receiveExactFrom_spec
    (nbytes : Nat) (buf : Bytes) (conn : Inflow UInt8)
    (within : buf.length ≤ nbytes) :
    (nbytes - buf.length ≤ conn.incoming.length →
        ∃ available, receiveExactFrom nbytes buf conn =
          (some (buf ++ conn.incoming.take (nbytes - buf.length)),
            ⟨conn.incoming.drop (nbytes - buf.length), available⟩)) ∧
      (conn.incoming.length < nbytes - buf.length →
        (receiveExactFrom nbytes buf conn).1 = none) := by
  fun_induction receiveExactFrom nbytes buf conn with
  | case1 buf conn short rest received =>
      have asks : 0 < nbytes - buf.length := by omega
      have ended :=
        (conn.recv_eq_nil_iff asks).mp (congrArg Prod.fst received)
      rw [ended]
      exact ⟨fun enough => absurd enough (by simp; omega), fun _ => rfl⟩
  | case2 buf conn short byte chunk rest received inductionHypothesis =>
      have split := conn.recv_append (nbytes - buf.length)
      have fits := conn.length_recv_le (nbytes - buf.length)
      rw [received] at split fits
      dsimp only at split fits
      have length_eq : (buf ++ byte :: chunk).length =
          buf.length + (byte :: chunk).length := List.length_append
      obtain ⟨arrives, ends⟩ := inductionHypothesis (by omega)
      rw [← split, List.length_append, List.take_append, List.drop_append,
        List.take_of_length_le fits, List.drop_eq_nil_of_le fits,
        List.nil_append, ← List.append_assoc]
      have missing : nbytes - (buf ++ byte :: chunk).length =
          nbytes - buf.length - (byte :: chunk).length := by omega
      rw [missing] at arrives ends
      exact ⟨fun enough => arrives (by omega), fun less => ends (by omega)⟩
  | case3 buf conn complete =>
      have missing : nbytes - buf.length = 0 := by omega
      rw [missing]
      exact ⟨fun _ => ⟨conn.available, by simp⟩, fun less => nomatch less⟩

/-- The next bytes are taken if there are as many. -/
theorem receiveExact_of_le
    {nbytes : Nat} {conn : Inflow UInt8}
    (enough : nbytes ≤ conn.incoming.length) :
    ∃ available, receiveExact nbytes conn =
      (some (conn.incoming.take nbytes),
        ⟨conn.incoming.drop nbytes, available⟩) :=
  (receiveExactFrom_spec nbytes [] conn (Nat.zero_le _)).1 enough

/-- What the stream starts with is taken. -/
theorem receiveExact_append
    {nbytes : Nat} {conn : Inflow UInt8} {taken rest : Bytes}
    (length_eq : taken.length = nbytes)
    (incoming : conn.incoming = taken ++ rest) :
    ∃ available,
      receiveExact nbytes conn = (some taken, ⟨rest, available⟩) := by
  have enough : nbytes ≤ conn.incoming.length := by
    rw [incoming, List.length_append]
    omega
  obtain ⟨available, received⟩ := receiveExact_of_le enough
  rw [incoming, List.take_left' length_eq, List.drop_left' length_eq]
    at received
  exact ⟨available, received⟩

theorem receiveExact_of_lt
    {nbytes : Nat} {conn : Inflow UInt8}
    (less : conn.incoming.length < nbytes) :
    (receiveExact nbytes conn).1 = none :=
  (receiveExactFrom_spec nbytes [] conn (Nat.zero_le _)).2 less

theorem length_of_receiveExact
    {nbytes : Nat} {conn rest : Inflow UInt8} {buf : Bytes}
    (received : receiveExact nbytes conn = (some buf, rest)) :
    rest.incoming.length + nbytes = conn.incoming.length := by
  rcases Nat.lt_or_ge conn.incoming.length nbytes with less | enough
  · have nothing := receiveExact_of_lt less
    rw [received] at nothing
    cases nothing
  · obtain ⟨available, taken⟩ := receiveExact_of_le enough
    rw [received] at taken
    cases taken
    rw [List.length_drop]
    omega

end TcpServerTransport

namespace AgentServer

open TcpServerTransport

/-- What serving a connection changes: the server, and the responses sent with
the ids of their requests. -/
structure Service (Server : Type) where
  server : Server
  sent : List (Bytes × Int) := []

variable {Server : Type} (processRequest : Bytes → Server → Bytes × Server)

/-- Process a message and send the response, if there is one. -/
def Service.answer
    (service : Service Server) (header : AppHeader) (fullMessage : Bytes) :
    Service Server :=
  let (response, server) := processRequest fullMessage service.server
  match response with
  | [] => { service with server }
  | _ => { server, sent := service.sent ++ [(response, header.requestId)] }

/-- The loop of `_handle_connection`, for any `process_request`. -/
def handleConnection
    (conn : Inflow UInt8) (service : Service Server) : Service Server :=
  match received : receiveExact headerSize conn with
  | (none, _) => service
  | (some headerBytes, afterHeader) =>
      match decodeHeader headerBytes with
      | .error _ => service
      | .ok header =>
          match receivedPayload :
              receiveExact header.payloadLen.toNat afterHeader with
          | (none, _) => service
          | (some payload, afterPayload) =>
              handleConnection afterPayload
                (service.answer processRequest header (headerBytes ++ payload))
termination_by conn.incoming.length
decreasing_by
  have headerTaken := length_of_receiveExact received
  have payloadTaken := length_of_receiveExact receivedPayload
  have positive : 0 < headerSize := by decide
  omega

/-- A message that was sent, with the header it was encoded with. -/
structure SentMessage where
  opcode : Int
  flags : Int
  requestId : Int
  payload : Bytes
  bytes : Bytes
  encoded : encodeMessage opcode flags requestId payload = .ok bytes

namespace SentMessage

variable (message : SentMessage)

def header : AppHeader where
  version := protocolVersion
  opcode := message.opcode
  flags := message.flags
  reserved := 0
  requestId := message.requestId
  payloadLen := message.payload.length

/-- The bytes of a message are its header and its payload. -/
theorem bytes_eq :
    ∃ headerBytes, headerBytes.length = headerSize ∧
      decodeHeader headerBytes = .ok message.header ∧
      message.bytes = headerBytes ++ message.payload := by
  have encoded := message.encoded
  unfold encodeMessage at encoded
  cases encodedHeader : encodeHeader protocolVersion message.opcode
      message.flags message.requestId message.payload.length with
  | error error =>
      rw [encodedHeader] at encoded
      cases encoded
  | ok headerBytes =>
      rw [encodedHeader] at encoded
      obtain ⟨decoded, length_eq⟩ :=
        decodeHeader_of_encodeHeader encodedHeader
      exact ⟨headerBytes, length_eq, decoded, (Except.ok.inj encoded).symm⟩

end SentMessage

/-- The messages that end within a number of bytes. -/
def completeWithin : Nat → List SentMessage → List SentMessage
  | _, [] => []
  | length, message :: messages =>
      if message.bytes.length ≤ length then
        message :: completeWithin (length - message.bytes.length) messages
      else []

/-- Answer messages one after the other. -/
def Service.answerAll
    (service : Service Server) (messages : List SentMessage) :
    Service Server :=
  messages.foldl (fun service message =>
    service.answer processRequest message.header message.bytes) service

variable {processRequest}

/-- A message at the head of the stream is answered, and the loop goes on
behind it. -/
theorem handleConnection_sent
    (message : SentMessage) {conn : Inflow UInt8} {rest : Bytes}
    (incoming : conn.incoming = message.bytes ++ rest)
    (service : Service Server) :
    ∃ available, handleConnection processRequest conn service =
      handleConnection processRequest ⟨rest, available⟩
        (service.answer processRequest message.header message.bytes) := by
  obtain ⟨headerBytes, length_eq, decoded, bytes_eq⟩ := message.bytes_eq
  rw [bytes_eq, List.append_assoc] at incoming
  obtain ⟨afterHeader, headerTaken⟩ := receiveExact_append length_eq incoming
  have payloadSize : message.payload.length =
      message.header.payloadLen.toNat := rfl
  obtain ⟨afterPayload, payloadTaken⟩ :=
    @receiveExact_append _ ⟨message.payload ++ rest, afterHeader⟩ _ _
      payloadSize rfl
  refine ⟨afterPayload, ?_⟩
  rw [handleConnection]
  split
  · next nothing =>
      rw [headerTaken] at nothing
      cases nothing
  · next received =>
      rw [headerTaken] at received
      cases received
      rw [decoded]
      dsimp only
      split
      · next nothing =>
          rw [payloadTaken] at nothing
          cases nothing
      · next received =>
          rw [payloadTaken] at received
          cases received
          rw [bytes_eq]

/-- Nothing is processed if the stream ends within the next message. -/
theorem handleConnection_truncated
    (message : SentMessage) {conn : Inflow UInt8}
    (short : conn.incoming.length < message.bytes.length)
    (truncated : conn.incoming <+: message.bytes)
    (service : Service Server) :
    handleConnection processRequest conn service = service := by
  obtain ⟨headerBytes, length_eq, decoded, bytes_eq⟩ := message.bytes_eq
  rw [handleConnection]
  rcases Nat.lt_or_ge conn.incoming.length headerSize with less | headerFits
  · have nothing := receiveExact_of_lt less
    split
    · rfl
    · next received =>
        rw [received] at nothing
        cases nothing
  · rw [bytes_eq] at short truncated
    -- the header is complete, and the payload is not
    obtain ⟨part, incoming⟩ : headerBytes <+: conn.incoming :=
      List.prefix_of_prefix_length_le (List.prefix_append _ _) truncated
        (length_eq.trans_le headerFits)
    obtain ⟨afterHeader, headerTaken⟩ :=
      receiveExact_append length_eq incoming.symm
    have partShort : (Inflow.mk part afterHeader).incoming.length <
        message.header.payloadLen.toNat := by
      rw [← incoming, List.length_append, List.length_append] at short
      exact Nat.lt_of_add_lt_add_left short
    have nothing := receiveExact_of_lt partShort
    split
    · rfl
    · next received =>
        rw [headerTaken] at received
        cases received
        rw [decoded]
        dsimp only
        split
        · rfl
        · next received =>
            rw [received] at nothing
            cases nothing

/-- Nothing is processed at a malformed header or behind it. -/
theorem handleConnection_malformed
    {conn : Inflow UInt8} {headerBytes rest : Bytes} {error : PyError}
    (length_eq : headerBytes.length = headerSize)
    (malformed : decodeHeader headerBytes = .error error)
    (incoming : conn.incoming = headerBytes ++ rest)
    (service : Service Server) :
    handleConnection processRequest conn service = service := by
  obtain ⟨afterHeader, headerTaken⟩ := receiveExact_append length_eq incoming
  rw [handleConnection]
  split
  · rfl
  · next received =>
      rw [headerTaken] at received
      cases received
      rw [malformed]

theorem handleConnection_nil
    {conn : Inflow UInt8} (closed : conn.incoming = [])
    (service : Service Server) :
    handleConnection processRequest conn service = service := by
  have nothing : (receiveExact headerSize conn).1 = none := by
    apply receiveExact_of_lt
    rw [closed]
    decide
  rw [handleConnection]
  split
  · rfl
  · next received =>
      rw [received] at nothing
      cases nothing

/-- Run lemma: messages at the head of the stream are answered in order. -/
theorem handleConnection_append
    (messages : List SentMessage) {conn : Inflow UInt8} {rest : Bytes}
    (incoming : conn.incoming =
      (messages.map SentMessage.bytes).flatten ++ rest)
    (service : Service Server) :
    ∃ available, handleConnection processRequest conn service =
      handleConnection processRequest ⟨rest, available⟩
        (service.answerAll processRequest messages) := by
  induction messages generalizing conn service with
  | nil =>
      obtain ⟨stream, available⟩ := conn
      cases incoming
      exact ⟨available, rfl⟩
  | cons message messages inductionHypothesis =>
      rw [List.map_cons, List.flatten_cons, List.append_assoc] at incoming
      obtain ⟨available, first⟩ :=
        handleConnection_sent message incoming service
      obtain ⟨later, others⟩ :=
        inductionHypothesis (show (Inflow.mk _ available).incoming = _ from rfl)
          (service.answer processRequest message.header message.bytes)
      exact ⟨later, first.trans others⟩

/-- A stream that is cut off has the messages that end before the cut, and a
part of the next one. -/
theorem take_flatten
    (length : Nat) (messages : List SentMessage) :
    ∃ rest, ((messages.map SentMessage.bytes).flatten.take length) =
        ((completeWithin length messages).map SentMessage.bytes).flatten ++
          rest ∧
      (rest = [] ∨ ∃ message : SentMessage,
        rest.length < message.bytes.length ∧ rest <+: message.bytes) := by
  induction messages generalizing length with
  | nil => exact ⟨[], by simp [completeWithin], .inl rfl⟩
  | cons message messages inductionHypothesis =>
      rw [completeWithin, List.map_cons, List.flatten_cons]
      split
      · next complete =>
          obtain ⟨rest, taken, ends⟩ :=
            inductionHypothesis (length - message.bytes.length)
          refine ⟨rest, ?_, ends⟩
          rw [List.take_append, List.take_of_length_le complete, taken,
            List.map_cons, List.flatten_cons, List.append_assoc]
      · next incomplete =>
          refine ⟨message.bytes.take length, ?_,
            .inr ⟨message, ?_, List.take_prefix _ _⟩⟩
          · rw [List.take_append_of_le_length (by omega)]
            rfl
          · rw [List.length_take]
            omega

/-- Whatever the pieces of the stream are, `process_request` gets the messages
that end before the connection is closed, in order.  Nothing at or behind a
malformed header is processed. -/
theorem handleConnection_encoded
    (processRequest : Bytes → Server → Bytes × Server)
    (messages : List SentMessage) (available : Nat → Nat)
    (service : Service Server) :
    (∀ length, handleConnection processRequest
        ⟨(messages.map SentMessage.bytes).flatten.take length, available⟩
        service =
      service.answerAll processRequest (completeWithin length messages)) ∧
    ∀ headerBytes rest error, headerBytes.length = headerSize →
      decodeHeader headerBytes = .error error →
        handleConnection processRequest
          ⟨(messages.map SentMessage.bytes).flatten ++ (headerBytes ++ rest),
            available⟩ service =
          service.answerAll processRequest messages := by
  constructor
  · intro length
    obtain ⟨rest, taken, ends⟩ := take_flatten length messages
    rw [taken]
    obtain ⟨later, answered⟩ := handleConnection_append
      (completeWithin length messages)
      (show (Inflow.mk _ available).incoming = _ from rfl) service
    rw [answered]
    rcases ends with rfl | ⟨message, short, isPrefix⟩
    · exact handleConnection_nil rfl _
    · exact handleConnection_truncated message short isPrefix _
  · intro headerBytes rest error length_eq malformed
    obtain ⟨later, answered⟩ := handleConnection_append messages
      (show (Inflow.mk _ available).incoming = _ from rfl) service
    rw [answered]
    exact handleConnection_malformed length_eq malformed rfl _

/-- A message with one byte of payload. -/
def sampleMessage : SentMessage where
  opcode := 1
  flags := 0
  requestId := 7
  payload := [0x61]
  bytes := [1, 1, 0, 0, 0, 0, 0, 7, 0, 0, 0, 1, 0x61]
  encoded := rfl

/-- A message before a malformed header arrives in pieces of five bytes. -/
theorem handleConnection_encoded_sample :
    (handleConnection (fun data log => ([0x21], log ++ [data]))
        ⟨sampleMessage.bytes ++ List.replicate 12 0, fun _ => 5⟩
        ⟨[], []⟩) =
      ⟨[sampleMessage.bytes], [([0x21], 7)]⟩ :=
  (handleConnection_encoded (fun data log => ([0x21], log ++ [data]))
    [sampleMessage] (fun _ => 5) ⟨[], []⟩).2 (List.replicate 12 0) [] _ rfl rfl

/-! ## The server behind the connection -/

section Agent

variable {World : Type} (host : Host World) (guard : PolicyGuard)

/-- `process_request` for the next message of a client, given the clock
readings of each message. -/
def processNext
    (clientId : Text) (readings : Nat → Readings) (data : Bytes)
    (server : Nat × AgentState World) : Bytes × (Nat × AgentState World) :=
  let (response, state) := AgentServer.processRequest host guard clientId data
    (readings server.1) server.2
  (response, server.1 + 1, state)

/-- The calls for messages of a client. -/
def callsFor
    (clientId : Text) (readings : Nat → Readings) (first : Nat)
    (messages : List SentMessage) : List Call :=
  (messages.zipIdx first).map fun (message, index) =>
    { clientId, data := message.bytes, now := readings index }

/-- A connection takes the server through the run of its messages. -/
theorem server_answerAll
    (clientId : Text) (readings : Nat → Readings)
    (messages : List SentMessage)
    (service : Service (Nat × AgentState World)) :
    (service.answerAll (processNext host guard clientId readings)
        messages).server =
      (service.server.1 + messages.length,
        run host guard service.server.2
          (callsFor clientId readings service.server.1 messages)) := by
  induction messages generalizing service with
  | nil => rfl
  | cons message messages inductionHypothesis =>
      have served : (service.answer (processNext host guard clientId readings)
          message.header message.bytes).server =
            (service.server.1 + 1, (AgentServer.processRequest host guard
              clientId message.bytes (readings service.server.1)
                service.server.2).2) := by
        unfold Service.answer
        dsimp only
        split <;> rfl
      have others := inductionHypothesis
        (service.answer (processNext host guard clientId readings)
          message.header message.bytes)
      rw [served] at others
      refine others.trans ?_
      have length_eq : service.server.1 + 1 + messages.length =
          service.server.1 + (message :: messages).length := by
        rw [List.length_cons]
        omega
      exact Prod.ext length_eq rfl

end Agent

end AgentServer

end RudpAgentStack
