import LicensingServer.Sessions.ClientState
import LicensingServer.Crypto.Messages

/-!
Owns one call of `connectAndGetAuthToken` against whoever answers it: the frames
that come are arbitrary and come at any time, and what the call comes to is a
function of the first four.

Does not own who sends these frames.
-/

set_option autoImplicit false

namespace LicensingServer

open LicensingServer.Foundations

/-- A client, the frames that its socket was delivered, and what it sent. -/
structure Visit (Peer : Type) where
  client : Client
  delivered : List Bytes
  sent : List (Message Peer)

/-- Who moves. -/
inductive VisitStep
  | deliver (frame : Bytes)
  | client
deriving DecidableEq, Repr

/-- What the function has ended with. -/
def ClientThread.result : ClientThread → Option (Except Fault Bool)
  | .returned isValid => some (.ok isValid)
  | .failed fault => some (.error fault)
  | _ => none

namespace Visit

variable {Peer : Type} {lib : CryptoPP} (peer : Peer) (draw : KeyDraw lib) (id : Bytes)

def system : TransitionSystem (Visit Peer) VisitStep where
  initial visit := visit = ⟨.initial, [], []⟩
  step visit
    | .deliver frame => some { visit with delivered := visit.delivered ++ [frame] }
    | .client =>
        (visit.client.connectAndGetAuthToken peer draw id visit.delivered).map
          fun (client, message) => ⟨client, visit.delivered, visit.sent ++ message.toList⟩

/-! ### What is made of the frames -/

/-- `crypto` behind the call of `genXport`. -/
def agreeOn (spub epub : Bytes) : Except Fault Crypto :=
  (Crypto.runInitKeyExchangeParams draw .initial).bind (Crypto.runGenXport draw spub epub)

/-- `crypto` behind the call of `decryptXport`. -/
def unwrap (spub epub xport : Bytes) : Except Fault Crypto :=
  (agreeOn draw spub epub).bind fun crypto => Crypto.decryptXport lib crypto xport

/-- What the call comes to when all four frames are there. -/
def outcome (spub epub xport ack : Bytes) : Except Fault Bool :=
  (unwrap draw spub epub xport).bind fun crypto =>
    (Crypto.decrypt lib crypto ack).map Client.isSuccessful

def faultOf : Except Fault Crypto → Option (Except Fault Bool)
  | .error fault => some (.error fault)
  | .ok _ => none

/-- What the call comes to on these frames; nothing while it waits for more. -/
def comesTo : List Bytes → Option (Except Fault Bool)
  | spub :: epub :: xport :: ack :: _ => some (outcome draw spub epub xport ack)
  | [spub, epub, xport] => faultOf (unwrap draw spub epub xport)
  | [spub, epub] => faultOf (agreeOn draw spub epub)
  | _ => faultOf (Crypto.runInitKeyExchangeParams draw .initial)

theorem single_frame_nonempty (data : Bytes) : [data] ≠ [] := List.cons_ne_nil _ _

/-- The two messages of a client. -/
def messages : List (Message Peer) :=
  [⟨peer, [greeting, Crypto.blockHexStr lib draw.staticPublic,
      Crypto.blockHexStr lib draw.ephemeralPublic], List.cons_ne_nil _ _⟩,
    ⟨peer, [id], single_frame_nonempty id⟩]

variable {draw}

theorem comesTo_of_init_error {fault : Fault}
    (failed : Crypto.runInitKeyExchangeParams draw .initial = .error fault)
    (frames : List Bytes) : comesTo draw frames = some (.error fault) := by
  match frames with
  | [] | [_] | [_, _] | [_, _, _] | _ :: _ :: _ :: _ :: _ =>
      simp [comesTo, outcome, unwrap, agreeOn, failed, Except.bind, faultOf]

theorem comesTo_of_agreeOn_error {spub epub : Bytes} {fault : Fault}
    (failed : agreeOn draw spub epub = .error fault) (more : List Bytes) :
    comesTo draw (spub :: epub :: more) = some (.error fault) := by
  match more with
  | [] | [_] | _ :: _ :: _ => simp [comesTo, outcome, unwrap, failed, Except.bind, faultOf]

theorem comesTo_of_unwrap_error {spub epub xport : Bytes} {fault : Fault}
    (failed : unwrap draw spub epub xport = .error fault) (more : List Bytes) :
    comesTo draw (spub :: epub :: xport :: more) = some (.error fault) := by
  match more with
  | [] | _ :: _ => simp [comesTo, outcome, failed, Except.bind, faultOf]

/-! ### Where a call is -/

variable (draw)

/-- What a client holds at each of its statements, by the frames that it has
read. -/
def InPlace (frames : List Bytes) (client : Client) : Prop :=
  match client.thread with
  | .initKeyExchangeParams => frames = [] ∧ client.crypto = .initial
  | .sendGreeting | .recvSpub =>
      frames = [] ∧ Crypto.runInitKeyExchangeParams draw .initial = .ok client.crypto
  | .recvEpub spub =>
      frames = [spub] ∧ Crypto.runInitKeyExchangeParams draw .initial = .ok client.crypto
  | .genXport spub epub =>
      frames = [spub, epub] ∧ Crypto.runInitKeyExchangeParams draw .initial = .ok client.crypto
  | .recvXport => ∃ spub epub, frames = [spub, epub] ∧ agreeOn draw spub epub = .ok client.crypto
  | .decryptXport xport =>
      ∃ spub epub, frames = [spub, epub, xport] ∧ agreeOn draw spub epub = .ok client.crypto
  | .sendID | .recvAck =>
      ∃ spub epub xport, frames = [spub, epub, xport] ∧
        unwrap draw spub epub xport = .ok client.crypto
  | .decrypt ack =>
      ∃ spub epub xport, frames = [spub, epub, xport, ack] ∧
        unwrap draw spub epub xport = .ok client.crypto
  | .returned isValid => ∀ more, comesTo draw (frames ++ more) = some (.ok isValid)
  | .failed fault => ∀ more, comesTo draw (frames ++ more) = some (.error fault)

/-- The number of messages that were sent before a statement. -/
def InStep (sent : List (Message Peer)) : ClientThread → Prop
  | .initKeyExchangeParams | .sendGreeting => sent = []
  | .recvAck | .decrypt _ | .returned _ => sent = messages peer draw id
  | .failed _ => sent <+: messages peer draw id
  | _ => sent = (messages peer draw id).take 1

/-- A visit whose client has read `frames`. -/
structure HasRead (frames : List Bytes) (visit : Visit Peer) : Prop where
  front : frames <+: visit.delivered
  count : visit.client.got = frames.length
  inPlace : InPlace draw frames visit.client
  inStep : InStep peer draw id visit.sent visit.client.thread

variable {peer draw id}

theorem hasRead_initial : HasRead peer draw id [] ⟨.initial, [], []⟩ :=
  ⟨List.nil_prefix, rfl, ⟨rfl, rfl⟩, rfl⟩

/-- A frame that is read is the next one. -/
theorem recv_next {client next : Client} {delivered frames : List Bytes}
    (front : frames <+: delivered) (count : client.got = frames.length)
    {goOn : Bytes → ClientThread} {message : Option (Message Peer)}
    (taken : client.recv delivered goOn = some (next, message)) :
    ∃ frame, frames ++ [frame] <+: delivered ∧
      next = { client with thread := goOn frame, got := (frames ++ [frame]).length } ∧
      message = none := by
  obtain ⟨frame, waiting, same⟩ := Option.map_eq_some_iff.mp taken
  obtain ⟨rfl, rfl⟩ := Prod.mk.inj same
  rcases front with ⟨rest, rfl⟩
  rw [count, List.getElem?_append_right (Nat.le_refl _), Nat.sub_self] at waiting
  cases rest with
  | nil => cases waiting
  | cons first rest =>
      obtain rfl := Option.some.inj waiting
      refine ⟨first, ⟨rest, by simp⟩, ?_, rfl⟩
      rw [count, List.length_append, List.length_singleton]

/-- A call of the `Crypto` object, which fails as the frames that were read come to. -/
theorem hasRead_call {frames delivered : List Bytes} {sent : List (Message Peer)}
    {client : Client} {done : Except Fault Crypto} {thread : ClientThread}
    (front : frames <+: delivered) (count : client.got = frames.length)
    (fails : ∀ fault, done = .error fault →
      ∀ more, comesTo draw (frames ++ more) = some (.error fault))
    (isFront : sent <+: messages peer draw id)
    (goesOn : ∀ after, done = .ok after →
      InPlace draw frames { client with crypto := after, thread := thread })
    (inStep : InStep peer draw id sent thread) :
    HasRead peer draw id frames ⟨client.call done thread, delivered, sent ++ []⟩ := by
  rw [List.append_nil]
  cases done with
  | error fault => exact ⟨front, count, fails fault rfl, isFront⟩
  | ok after => exact ⟨front, count, goesOn after rfl, inStep⟩

/-- One statement of the client. -/
theorem HasRead.client_step {frames : List Bytes} {visit : Visit Peer} {client : Client}
    {message : Option (Message Peer)} (hasRead : HasRead peer draw id frames visit)
    (taken : visit.client.connectAndGetAuthToken peer draw id visit.delivered =
      some (client, message)) :
    ∃ next, HasRead peer draw id next
      ⟨client, visit.delivered, visit.sent ++ message.toList⟩ := by
  rcases visit with ⟨⟨crypto, thread, got⟩, delivered, sent⟩
  rcases hasRead with ⟨front, count, inPlace, inStep⟩
  cases thread with
  | initKeyExchangeParams =>
      rcases inPlace with ⟨rfl, rfl⟩
      obtain ⟨rfl, rfl⟩ := Prod.mk.inj (Option.some.inj taken)
      refine ⟨[], hasRead_call front count ?_ ?_ ?_ inStep⟩
      · exact fun fault failed more => comesTo_of_init_error failed more
      · rw [show sent = [] from inStep]
        exact List.nil_prefix
      · exact fun after ready => ⟨rfl, ready⟩
  | sendGreeting =>
      rcases inPlace with ⟨rfl, ready⟩
      obtain ⟨rfl, rfl⟩ := Prod.mk.inj (Option.some.inj taken)
      refine ⟨[], front, count, ⟨rfl, ready⟩, ?_⟩
      rw [Crypto.runInitKeyExchangeParams_eq] at ready
      split_ifs at ready
      obtain rfl := Except.ok.inj ready
      rw [show sent = [] from inStep]
      rfl
  | recvSpub =>
      rcases inPlace with ⟨rfl, ready⟩
      obtain ⟨frame, further, rfl, rfl⟩ := recv_next front count taken
      exact ⟨_, further, rfl, ⟨rfl, ready⟩, (List.append_nil sent).trans inStep⟩
  | recvEpub spub =>
      rcases inPlace with ⟨rfl, ready⟩
      obtain ⟨frame, further, rfl, rfl⟩ := recv_next front count taken
      exact ⟨_, further, rfl, ⟨rfl, ready⟩, (List.append_nil sent).trans inStep⟩
  | genXport spub epub =>
      rcases inPlace with ⟨rfl, ready⟩
      obtain ⟨rfl, rfl⟩ := Prod.mk.inj (Option.some.inj taken)
      have agrees : agreeOn draw spub epub = Crypto.runGenXport draw spub epub crypto := by
        rw [agreeOn, ready]
        rfl
      refine ⟨_, hasRead_call front count ?_ ?_ ?_ inStep⟩
      · exact fun fault failed more => comesTo_of_agreeOn_error (agrees.trans failed) more
      · rw [show sent = _ from inStep]
        exact List.take_prefix 1 _
      · exact fun after done => ⟨spub, epub, rfl, agrees.trans done⟩
  | recvXport =>
      rcases inPlace with ⟨spub, epub, rfl, agrees⟩
      obtain ⟨frame, further, rfl, rfl⟩ := recv_next front count taken
      exact ⟨_, further, rfl, ⟨spub, epub, rfl, agrees⟩, (List.append_nil sent).trans inStep⟩
  | decryptXport xport =>
      rcases inPlace with ⟨spub, epub, rfl, agrees⟩
      obtain ⟨rfl, rfl⟩ := Prod.mk.inj (Option.some.inj taken)
      have unwraps : unwrap draw spub epub xport = Crypto.decryptXport lib crypto xport := by
        rw [unwrap, agrees]
        rfl
      refine ⟨_, hasRead_call front count ?_ ?_ ?_ inStep⟩
      · exact fun fault failed more => comesTo_of_unwrap_error (unwraps.trans failed) more
      · rw [show sent = _ from inStep]
        exact List.take_prefix 1 _
      · exact fun after done => ⟨spub, epub, xport, rfl, unwraps.trans done⟩
  | sendID =>
      obtain ⟨rfl, rfl⟩ := Prod.mk.inj (Option.some.inj taken)
      refine ⟨frames, front, count, inPlace, ?_⟩
      rw [show sent = _ from inStep]
      rfl
  | recvAck =>
      rcases inPlace with ⟨spub, epub, xport, rfl, unwraps⟩
      obtain ⟨frame, further, rfl, rfl⟩ := recv_next front count taken
      exact ⟨_, further, rfl, ⟨spub, epub, xport, rfl, unwraps⟩,
        (List.append_nil sent).trans inStep⟩
  | decrypt ack =>
      rcases inPlace with ⟨spub, epub, xport, rfl, unwraps⟩
      have comes (more : List Bytes) : comesTo draw ([spub, epub, xport, ack] ++ more) =
          some ((Crypto.decrypt lib crypto ack).map Client.isSuccessful) := by
        change some (outcome draw spub epub xport ack) = _
        rw [outcome, unwraps]
        rfl
      cases done : Crypto.decrypt lib crypto ack with
      | error fault =>
          simp only [Client.connectAndGetAuthToken, done] at taken
          obtain ⟨rfl, rfl⟩ := Prod.mk.inj (Option.some.inj taken)
          refine ⟨_, front, count, fun more => ?_, ?_⟩
          · rw [comes more, done]
            rfl
          · rw [show sent = _ from inStep, Option.toList_none, List.append_nil]
            exact List.prefix_rfl
      | ok text =>
          simp only [Client.connectAndGetAuthToken, done] at taken
          obtain ⟨rfl, rfl⟩ := Prod.mk.inj (Option.some.inj taken)
          refine ⟨_, front, count, fun more => ?_, (List.append_nil sent).trans inStep⟩
          rw [comes more, done]
          rfl
  | returned isValid => cases taken
  | failed fault => cases taken

/-- At any time the client has read a front part of what was delivered. -/
theorem hasRead_of_reachable {visit : Visit Peer}
    (reachable : (system peer draw id).Reachable visit) :
    ∃ frames, HasRead peer draw id frames visit := by
  apply reachable.invariant (fun visit => ∃ frames, HasRead peer draw id frames visit)
  · intro visit start
    rw [show visit = _ from start]
    exact ⟨[], hasRead_initial⟩
  · intro visit step next hasRead stepped
    rcases hasRead with ⟨frames, hasRead⟩
    cases step with
    | deliver frame =>
        obtain rfl := Option.some.inj stepped
        exact ⟨frames, hasRead.front.trans (List.prefix_append _ _), hasRead.count,
          hasRead.inPlace, hasRead.inStep⟩
    | client =>
        obtain ⟨⟨client, message⟩, taken, rfl⟩ := Option.map_eq_some_iff.mp stepped
        exact hasRead.client_step taken

/-- A client that waits for a further frame has read all that was delivered. -/
theorem recv_blocked {client : Client} {delivered frames : List Bytes}
    (front : frames <+: delivered) (count : client.got = frames.length)
    {goOn : Bytes → ClientThread} (blocked : @Client.recv Peer client delivered goOn = none) :
    delivered = frames := by
  have beyond : delivered.length ≤ client.got :=
    List.getElem?_eq_none_iff.mp (Option.map_eq_none_iff.mp blocked)
  exact (front.eq_of_length_le (by omega)).symm

/-- A client that makes no further step has come to what its frames come to. -/
theorem HasRead.result_of_idle {frames : List Bytes} {visit : Visit Peer}
    (hasRead : HasRead peer draw id frames visit)
    (idle : visit.client.connectAndGetAuthToken peer draw id visit.delivered = none) :
    visit.client.thread.result = comesTo draw visit.delivered := by
  rcases visit with ⟨⟨crypto, thread, got⟩, delivered, sent⟩
  rcases hasRead with ⟨front, count, inPlace, -⟩
  cases thread with
  | recvSpub =>
      obtain rfl := recv_blocked front count idle
      rcases inPlace with ⟨rfl, ready⟩
      simp [comesTo, ready, faultOf, ClientThread.result]
  | recvEpub spub =>
      obtain rfl := recv_blocked front count idle
      rcases inPlace with ⟨rfl, ready⟩
      simp [comesTo, ready, faultOf, ClientThread.result]
  | recvXport =>
      obtain rfl := recv_blocked front count idle
      rcases inPlace with ⟨spub, epub, rfl, agrees⟩
      simp [comesTo, agrees, faultOf, ClientThread.result]
  | recvAck =>
      obtain rfl := recv_blocked front count idle
      rcases inPlace with ⟨spub, epub, xport, rfl, unwraps⟩
      simp [comesTo, unwraps, faultOf, ClientThread.result]
  | returned isValid =>
      rcases front with ⟨more, rfl⟩
      exact (inPlace more).symm
  | failed fault =>
      rcases front with ⟨more, rfl⟩
      exact (inPlace more).symm
  | decrypt ack =>
      cases done : Crypto.decrypt lib crypto ack with
      | error fault => simp only [Client.connectAndGetAuthToken, done] at idle; cases idle
      | ok text => simp only [Client.connectAndGetAuthToken, done] at idle; cases idle
  | _ => cases idle

/-- However the frames come, a client that makes no further step has returned or
failed as the first four of them say, or waits for more. -/
theorem returned_iff_comesTo {visit : Visit Peer}
    (reachable : (system peer draw id).Reachable visit)
    (idle : (system peer draw id).step visit .client = none) (isValid : Bool) :
    visit.client.thread = .returned isValid ↔
      comesTo draw visit.delivered = some (.ok isValid) := by
  obtain ⟨frames, hasRead⟩ := hasRead_of_reachable reachable
  rw [← hasRead.result_of_idle (Option.map_eq_none_iff.mp idle)]
  cases visit.client.thread <;> simp [ClientThread.result]

/-- Every statement takes the client nearer to its end. -/
theorem remaining_lt {client next : Client} {message : Option (Message Peer)}
    {delivered : List Bytes}
    (taken : client.connectAndGetAuthToken peer draw id delivered = some (next, message)) :
    next.thread.remaining < client.thread.remaining := by
  rcases client with ⟨crypto, thread, got⟩
  have calls (done : Except Fault Crypto) {after : ClientThread}
      (less : after.remaining < thread.remaining)
      (same : some (Client.call ⟨crypto, thread, got⟩ done after, none) = some (next, message)) :
      next.thread.remaining < thread.remaining := by
    obtain ⟨rfl, rfl⟩ := Prod.mk.inj (Option.some.inj same)
    cases done with
    | error fault => exact Nat.lt_of_le_of_lt (Nat.zero_le _) less
    | ok crypto => exact less
  have reads {goOn : Bytes → ClientThread}
      (less : ∀ frame, (goOn frame).remaining < thread.remaining)
      (same : Client.recv ⟨crypto, thread, got⟩ delivered goOn = some (next, message)) :
      next.thread.remaining < thread.remaining := by
    obtain ⟨frame, waiting, same⟩ := Option.map_eq_some_iff.mp same
    obtain ⟨rfl, rfl⟩ := Prod.mk.inj same
    exact less frame
  cases thread with
  | initKeyExchangeParams => exact calls _ (Nat.lt_succ_self _) taken
  | genXport spub epub => exact calls _ (Nat.lt_succ_self _) taken
  | decryptXport xport => exact calls _ (Nat.lt_succ_self _) taken
  | recvSpub => exact reads (fun frame => Nat.lt_succ_self _) taken
  | recvEpub spub => exact reads (fun frame => Nat.lt_succ_self _) taken
  | recvXport => exact reads (fun frame => Nat.lt_succ_self _) taken
  | recvAck => exact reads (fun frame => Nat.lt_succ_self _) taken
  | sendGreeting =>
      obtain ⟨rfl, rfl⟩ := Prod.mk.inj (Option.some.inj taken)
      exact Nat.lt_succ_self _
  | sendID =>
      obtain ⟨rfl, rfl⟩ := Prod.mk.inj (Option.some.inj taken)
      exact Nat.lt_succ_self _
  | decrypt ack =>
      cases done : Crypto.decrypt lib crypto ack with
      | error fault =>
          simp only [Client.connectAndGetAuthToken, done] at taken
          obtain ⟨rfl, rfl⟩ := Prod.mk.inj (Option.some.inj taken)
          exact Nat.lt_succ_self _
      | ok text =>
          simp only [Client.connectAndGetAuthToken, done] at taken
          obtain ⟨rfl, rfl⟩ := Prod.mk.inj (Option.some.inj taken)
          exact Nat.lt_succ_self _
  | returned isValid => cases taken
  | failed fault => cases taken

/-- The client comes to a stand by steps of its own. -/
theorem exists_idle {visit : Visit Peer} (reachable : (system peer draw id).Reachable visit) :
    ∃ last, (system peer draw id).Reachable last ∧ last.delivered = visit.delivered ∧
      (system peer draw id).step last .client = none := by
  induction left : visit.client.thread.remaining using Nat.strong_induction_on
    generalizing visit with
  | _ left inductionHypothesis =>
      cases stepped : (system peer draw id).step visit .client with
      | none => exact ⟨visit, reachable, rfl, stepped⟩
      | some next =>
          obtain ⟨⟨client, message⟩, taken, same⟩ := Option.map_eq_some_iff.mp stepped
          subst same
          have less := remaining_lt taken
          rw [left] at less
          have ends := inductionHypothesis _ less (reachable.next stepped) rfl
          exact ends

/-- Whatever frames there are, some visit has been delivered them. -/
theorem exists_delivered (peer : Peer) (draw : KeyDraw lib) (id : Bytes) (frames : List Bytes) :
    ∃ visit, (system peer draw id).Reachable visit ∧ visit.delivered = frames := by
  induction frames using List.reverseRecOn with
  | nil => exact ⟨⟨.initial, [], []⟩, .start rfl, rfl⟩
  | append_singleton front frame inductionHypothesis =>
      rcases inductionHypothesis with ⟨visit, reachable, rfl⟩
      have delivered : (system peer draw id).step visit (.deliver frame) =
          some { visit with delivered := visit.delivered ++ [frame] } := rfl
      exact ⟨_, reachable.next delivered, rfl⟩

end Visit

end LicensingServer
