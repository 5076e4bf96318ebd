import RudpAgentStack.Dns.Resolution
import RudpAgentStack.Transport.Exchange

/-!
# Resolving a name over RUDP

`DNSClient.resolve` with `DoHRUDPServer` at the other end of the RUDP
transports, which other clients use as well.  Every lookup may remove a record,
but only one that no later lookup would find.  So what the client reads is what
it would have read at one moment of the run from the records there were at its
beginning.
-/

namespace RudpAgentStack

open Foundation

/-! ## What lookups leave -/

namespace DnsCache

/-- A lookup finds a record until it expires. -/
theorem fst_get (dnsCache : DnsCache) (name : Text) (now : ℚ) :
    (dnsCache.get name now).1 = (dnsCache.cache.get? name).bind
      fun (ip, expiresAt) => if now > expiresAt then none else some ip := by
  unfold get
  split
  · next ip expiresAt found =>
      rw [found, Option.bind_some]
      dsimp only
      split <;> rfl
  · next missing =>
      rw [missing]
      rfl

/-- What is not found is not found later. -/
theorem get_eq_none_of_le
    {dnsCache : DnsCache} {name : Text} {earlier now : ℚ}
    (later : earlier ≤ now) (missing : (dnsCache.get name earlier).1 = none) :
    (dnsCache.get name now).1 = none := by
  rw [fst_get] at missing ⊢
  cases record : dnsCache.cache.get? name with
  | none => rfl
  | some record =>
      simp only [record, Option.bind_some] at missing ⊢
      split at missing
      · next expired => exact if_pos (expired.trans_le later)
      · cases missing

/-- A lookup removes a record that it does not find. -/
theorem get?_get (dnsCache : DnsCache) (name other : Text) (now : ℚ) :
    (dnsCache.get name now).2.cache.get? other =
      if other = name ∧ (dnsCache.get name now).1 = none then none
      else dnsCache.cache.get? other := by
  unfold get
  split
  · split
    · rw [Dict.get?_del]
      simp only [and_true]
    · simp only [reduceCtorEq, and_false, if_false]
  · next missing =>
      dsimp only
      split
      · next both => rw [both.1, missing]
      · rfl

/-- A lookup does not change what later lookups find. -/
theorem get_get
    (dnsCache : DnsCache) (name other : Text) {earlier now : ℚ}
    (later : earlier ≤ now) :
    ((dnsCache.get name earlier).2.get other now).1 =
      (dnsCache.get other now).1 := by
  rw [fst_get, get?_get]
  split
  · next removed =>
      obtain ⟨same, missing⟩ := removed
      rw [same]
      exact (get_eq_none_of_le later missing).symm
  · exact (fst_get dnsCache other now).symm

/-- From a moment on, two caches cannot be told apart by lookups. -/
def SameFrom (time : ℚ) (dnsCache other : DnsCache) : Prop :=
  ∀ now, time ≤ now → ∀ name,
    (dnsCache.get name now).1 = (other.get name now).1

end DnsCache

namespace DohRudpServer

variable {World : Type} (host : Host World)

/-- The server looks names up, and does nothing else to its cache. -/
theorem cache_handleMessage
    (dnsCache : DnsCache) (now : ℚ) (data : Bytes) :
    (handleMessage host dnsCache now data).2 = dnsCache ∨
      ∃ name, (handleMessage host dnsCache now data).2 =
        (dnsCache.get name now).2 := by
  unfold handleMessage
  split
  · split
    · exact .inl rfl
    · exact .inl rfl
  · split
    · exact .inl rfl
    · exact .inl rfl
    · exact .inr ⟨_, rfl⟩

/-- Its answer depends on the lookup alone. -/
theorem answer_handleMessage
    {dnsCache other : DnsCache} {now : ℚ}
    (same : ∀ name, (dnsCache.get name now).1 = (other.get name now).1)
    (data : Bytes) :
    (handleMessage host dnsCache now data).1 =
      (handleMessage host other now data).1 := by
  unfold handleMessage
  split
  · split <;> rfl
  · split
    · rfl
    · rfl
    · dsimp only
      rw [same]

/-- The server as a service that reads the clock for every message, those of
other clients included. -/
def messageService :
    MessageService (DnsCache × ℚ) Bytes ℚ (Bytes × ℚ) where
  respond := fun (dnsCache, _) data now =>
    let (response, dnsCache) := handleMessage host dnsCache now data
    (response.toOption.join, (dnsCache, now))
  other := fun (dnsCache, _) (data, now) =>
    ((handleMessage host dnsCache now data).2, now)

/-- The clock does not go back. -/
def AdmitsStep :
    DnsCache × ℚ → MessageService.Step Bytes ℚ (Bytes × ℚ) → Prop
  | (_, last), .process _ now => last ≤ now
  | (_, last), .other (_, now) => last ≤ now

instance : ∀ (state : DnsCache × ℚ)
    (step : MessageService.Step Bytes ℚ (Bytes × ℚ)),
    Decidable (AdmitsStep state step)
  | (_, last), .process _ now => inferInstanceAs (Decidable (last ≤ now))
  | (_, last), .other (_, now) => inferInstanceAs (Decidable (last ≤ now))

variable {host} {start : DnsCache}

/-- Lookups from now on are those of the records at the beginning. -/
theorem sameFrom_handleMessage
    {dnsCache : DnsCache} {last now : ℚ}
    (same : dnsCache.SameFrom last start) (later : last ≤ now)
    (data : Bytes) :
    (handleMessage host dnsCache now data).2.SameFrom now start := by
  intro moment after name
  have before := same moment (later.trans after) name
  rcases cache_handleMessage host dnsCache now data with kept | ⟨asked, looked⟩
  · rw [kept]
    exact before
  · rw [looked, DnsCache.get_get dnsCache asked name after]
    exact before

/-- Step lemma: the clock goes on, and lookups stay those of the beginning. -/
theorem sameFrom_after
    {state : DnsCache × ℚ} (same : state.1.SameFrom state.2 start)
    {step : MessageService.Step Bytes ℚ (Bytes × ℚ)}
    (admitted : AdmitsStep state step) :
    state.2 ≤ ((messageService host).after state step).2 ∧
      ((messageService host).after state step).1.SameFrom
        ((messageService host).after state step).2 start := by
  cases step with
  | process message now =>
      exact ⟨admitted, sameFrom_handleMessage same admitted message⟩
  | other step =>
      exact ⟨admitted, sameFrom_handleMessage same admitted step.1⟩

/-- An answer is one that the records at the beginning give. -/
theorem handleMessage_of_answer?
    {state : DnsCache × ℚ} (same : state.1.SameFrom state.2 start)
    {step : MessageService.Step Bytes ℚ (Bytes × ℚ)}
    (admitted : AdmitsStep state step) {response : Bytes}
    (answers : (messageService host).answer? state step = some response) :
    ∃ message, step.message? = some message ∧
      (handleMessage host start ((messageService host).after state step).2
        message).1 = .ok (some response) := by
  cases step with
  | process message now =>
      refine ⟨message, rfl, ?_⟩
      have given : (handleMessage host state.1 now message).1.toOption.join =
          some response := answers
      rw [answer_handleMessage host (same now admitted)] at given
      change (handleMessage host start now message).1 = _
      cases answered : (handleMessage host start now message).1 with
      | error error =>
          rw [answered] at given
          cases given
      | ok sent =>
          rw [answered] at given
          exact congrArg Except.ok given
  | other step => cases answers

/-- Run lemma: every answer is one that the records at the beginning give to a
message, at a moment between the beginning and the end. -/
theorem handleMessage_of_mem_answers
    (steps : List (MessageService.Step Bytes ℚ (Bytes × ℚ)))
    {state : DnsCache × ℚ} (same : state.1.SameFrom state.2 start)
    (admitted : (messageService host).AdmitsAll AdmitsStep state steps) :
    state.2 ≤ ((messageService host).run state steps).2 ∧
      ∀ response ∈ (messageService host).answers state steps,
        ∃ message ∈ MessageService.processed steps, ∃ now, state.2 ≤ now ∧
          now ≤ ((messageService host).run state steps).2 ∧
          (handleMessage host start now message).1 = .ok (some response) := by
  induction steps generalizing state with
  | nil => exact ⟨le_rfl, fun response listed => by cases listed⟩
  | cons step steps inductionHypothesis =>
      obtain ⟨allowed, others⟩ := admitted
      obtain ⟨later, sameAfter⟩ := @sameFrom_after _ host _ _ same _ allowed
      obtain ⟨ends, answered⟩ := inductionHypothesis sameAfter others
      refine ⟨later.trans ends, ?_⟩
      intro response listed
      rcases List.mem_append.mp listed with first | rest
      · obtain ⟨message, processed, given⟩ := handleMessage_of_answer? same
          allowed (Option.mem_toList.mp first)
        refine ⟨message, ?_, _, later, ends, given⟩
        rw [MessageService.processed, List.filterMap_cons_some processed]
        exact List.mem_cons_self
      · obtain ⟨message, processed, now, after, before, given⟩ :=
          answered response rest
        refine ⟨message, ?_, now, later.trans after, before, given⟩
        have onward : MessageService.processed (step :: steps) =
            MessageService.processed [step] ++ MessageService.processed steps :=
          MessageService.processed_append [step] steps
        rw [onward]
        exact List.mem_append_right _ processed

end DohRudpServer

/-! ## The answer over RUDP -/

namespace DnsClient

open DohRudpServer

variable {World : Type} {host : Host World} {start : DnsCache}

/-- The exchange of a client of the server, from a moment on. -/
abbrev exchangeMachine
    (host : Host World) (start : DnsCache) (time : ℚ) :
    Machine (RudpExchange (DnsCache × ℚ))
      (RudpExchange.Action ℚ (Bytes × ℚ)) :=
  RudpExchange.machine (messageService host) (fun _ => 0) AdmitsStep
    (start, time)

/-- A client that has sent the request for a name receives nothing, or one
response.  From this it reads what it would have read without a network in
between, at one moment of the run and with the records there were at its
beginning. -/
theorem resolve_over_rudp
    {time : ℚ} {exchange : RudpExchange (DnsCache × ℚ)}
    (reachable : (exchangeMachine host start time).Reachable exchange)
    {dnsServerIp hostname : Text} {port : Nat} {request : Bytes}
    (encoded : host.encode
      (HttpBuilder.buildDohRequest hostname dnsServerIp port) = .ok request)
    (sent : exchange.client.history.submitted = [(request, 1)]) :
    exchange.client.history.delivered = [] ∨
      ∃ response now, exchange.client.history.delivered = [response] ∧
        time ≤ now ∧ now ≤ exchange.state.2 ∧
        readResponse host response =
          (resolve host start now dnsServerIp port hostname).1 := by
  obtain ⟨linked, steps, explains⟩ :=
    RudpExchange.explained_of_reachable reachable
  have same : start.SameFrom time start := fun _ _ _ => rfl
  obtain ⟨_, answered⟩ := handleMessage_of_mem_answers steps same
    explains.admitted
  rw [explains.answers, ← explains.state] at answered
  have received := linked.answers_prefix
  have processed := linked.requests_prefix
  rw [← explains.processed, sent] at processed
  have few := (messageService host).length_answers_le (start, time) steps
  rw [explains.answers] at few
  have once : exchange.client.history.delivered.length ≤ 1 :=
    received.length_le.trans (few.trans processed.length_le)
  rcases delivered : exchange.client.history.delivered with
    _ | ⟨response, others⟩
  · exact .inl rfl
  · right
    rw [delivered] at received once
    obtain ⟨message, listed, now, after, before, given⟩ :=
      answered response (received.subset List.mem_cons_self)
    have asked : message = request :=
      List.mem_singleton.mp (processed.subset listed)
    rw [asked] at given
    have alone : others = [] :=
      List.eq_nil_of_length_eq_zero
        (Nat.le_zero.mp (Nat.le_of_succ_le_succ once))
    refine ⟨response, now, by rw [alone], after, before, ?_⟩
    rw [resolve, encoded]
    dsimp only
    rw [given]

end DnsClient

/-! ## A lookup -/

namespace Sample

open RudpExchange DnsClient

/-- The request for the default record. -/
def defaultRequest : Bytes :=
  ((dnsHost.encode (HttpBuilder.buildDohRequest "agent.local" "127.0.0.1"
    8053)).toOption).getD []

/-- The response to it. -/
def defaultResponse : Bytes :=
  ((DohRudpServer.handleMessage dnsHost (.init 0) 2
    defaultRequest).1.toOption.join).getD []

/-- Another client asks first, and the request arrives twice. -/
def defaultLookup : List (RudpExchange.Action ℚ (Bytes × ℚ)) :=
  [.send defaultRequest 1 0,
    .event (.other (defaultRequest, 1)),
    .event (.serverReceive (dataDatagram defaultRequest 1 0) 2 fun _ => (2, 2)),
    .event (.serverReceive (dataDatagram defaultRequest 1 0) 3 fun _ => (3, 3)),
    .event (.receive (dataDatagram defaultResponse 0 0) 4)]

/-- The exchange after them. -/
def afterDefaultLookup : RudpExchange (DnsCache × ℚ) :=
  (exchangeMachine dnsHost (.init 0) 0).exec
    (exchangeMachine dnsHost (.init 0) 0).start defaultLookup

/-- What the client reads is the default record. -/
theorem resolve_over_rudp_default :
    ∃ response now, afterDefaultLookup.client.history.delivered = [response] ∧
      0 ≤ now ∧ now ≤ 2 ∧ readResponse dnsHost response =
        (resolve dnsHost (.init 0) now "127.0.0.1" 8053 "agent.local").1 := by
  have admitted : (exchangeMachine dnsHost (.init 0) 0).Admits
      (exchangeMachine dnsHost (.init 0) 0).start defaultLookup := by
    decide +kernel
  have reachable : (exchangeMachine dnsHost (.init 0) 0).Reachable
      afterDefaultLookup := .exec .start admitted
  have encoded : dnsHost.encode (HttpBuilder.buildDohRequest "agent.local"
      "127.0.0.1" 8053) = .ok defaultRequest := by decide +kernel
  have sent : afterDefaultLookup.client.history.submitted =
      [(defaultRequest, 1)] := by decide +kernel
  have ended : afterDefaultLookup.state.2 = 2 := by decide +kernel
  have received : afterDefaultLookup.client.history.delivered ≠ [] := by
    decide +kernel
  rcases resolve_over_rudp reachable encoded sent with
    nothing | ⟨response, now, delivered, after, before, read⟩
  · exact absurd nothing received
  · rw [ended] at before
    exact ⟨response, now, delivered, after, before, read⟩

end Sample

end RudpAgentStack
