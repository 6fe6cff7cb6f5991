import LicensingServer.Server.HandOff

/-!
Owns where the parts of a pushed request come from: they belong to one peer in
every run in which the loop's two unchecked assumptions about identity frames
are met, and to two peers in a run of two messages.

Does not own which messages honest clients send.
-/

set_option autoImplicit false

namespace LicensingServer.ReceiveLoop

open LicensingServer.Foundations

variable {Peer : Type} (network : Network Peer)

/-- One peer has the identity and the address of the request, and sent both the
greeting and the client ID. -/
def FromOnePeer : Effect Peer → Prop
  | .sentKeys _ => True
  | .pushed request workload message =>
      ∃ peer, request.clientIdentity = network.identity peer ∧
        request.ip = network.address peer ∧
        workload = .payload peer greeting ∧ message = .payload peer request.clientID

/-- What the loop takes for granted: the frame before a greeting is an identity
frame, and the identity thrown away is the one that is kept. -/
def IdentitiesMatch (loop : ReceiveLoop Peer) (frame : Frame Peer) : Prop :=
  match loop.awaiting with
  | .workload clientIdentity => frame.data network = greeting → clientIdentity.IsIdentity
  | .dummyIdentity clientIdentity _ =>
      frame.IsIdentity ∧ frame.data network = clientIdentity.data network
  | _ => True

instance (loop : ReceiveLoop Peer) (frame : Frame Peer) :
    Decidable (IdentitiesMatch network loop frame) :=
  match loop with
  | ⟨.workload _, _⟩ => inferInstanceAs (Decidable (_ → _))
  | ⟨.dummyIdentity _ _, _⟩ => inferInstanceAs (Decidable (_ ∧ _))
  | ⟨.clientIdentity, _⟩ | ⟨.spub _ _, _⟩ | ⟨.epub _ _ _, _⟩ | ⟨.clientID _ _, _⟩
  | ⟨.terminated, _⟩ => .isTrue trivial

/-- The variables that the loop holds come from one peer, and so does the frame
that it reads next where it has just read an identity. -/
def Attributed (loop : ReceiveLoop Peer) (frames : List (Frame Peer)) : Prop :=
  Framed frames ∧
    match loop.awaiting with
    | .clientIdentity => True
    | .workload clientIdentity => ∀ peer, clientIdentity = .identity peer →
        ∀ frame ∈ frames.head?, ∃ data, frame = .payload peer data
    | .spub clientIdentity workload => ∃ peer,
        clientIdentity = .identity peer ∧ workload = .payload peer greeting
    | .epub clientIdentity workload _ => ∃ peer,
        clientIdentity = .identity peer ∧ workload = .payload peer greeting
    | .dummyIdentity clientIdentity workload => ∃ peer,
        clientIdentity = .identity peer ∧ workload = .payload peer greeting
    | .clientID clientIdentity workload => ∃ peer,
        clientIdentity = .identity peer ∧ workload = .payload peer greeting ∧
          ∀ frame ∈ frames.head?, ∃ data, frame = .payload peer data
    | .terminated => True

variable {network} {keyExchange : Nat → Bytes → Bytes → Bool}

theorem attributed_next (loop : ReceiveLoop Peer) (frame : Frame Peer) (rest : List (Frame Peer))
    (attributed : Attributed loop (frame :: rest)) (matched : IdentitiesMatch network loop frame) :
    Attributed (next network keyExchange loop frame) rest := by
  rcases attributed with ⟨⟨adjacent, framed⟩, held⟩
  rcases loop with ⟨awaiting, handshakes⟩
  refine ⟨framed, ?_⟩
  cases awaiting with
  | clientIdentity => exact adjacent
  | workload clientIdentity =>
      by_cases greets : frame.data network = greeting
      · have isIdentity : clientIdentity.IsIdentity := matched greets
        cases clientIdentity with
        | payload sender data => exact isIdentity.elim
        | identity peer =>
            obtain ⟨data, rfl⟩ := held peer rfl frame rfl
            have same : data = greeting := greets
            simp only [next, greets, ne_eq, not_true_eq_false, if_false]
            exact ⟨peer, rfl, by rw [same]⟩
      · simp [next, greets]
  | spub clientIdentity workload => exact held
  | epub clientIdentity workload spub =>
      by_cases agreed : keyExchange handshakes (spub.data network) (frame.data network) = true
      · simp only [next, agreed, if_true]
        exact held
      · simp [next, agreed]
  | dummyIdentity clientIdentity workload =>
      rcases held with ⟨peer, rfl, greets⟩
      rcases matched with ⟨isIdentity, same⟩
      cases frame with
      | payload sender data => exact isIdentity.elim
      | identity other =>
          -- the router keeps identities apart, so equal identities name one peer
          obtain rfl : other = peer := network.identity_injective same
          exact ⟨other, rfl, greets, adjacent other rfl⟩
  | clientID clientIdentity workload => trivial
  | terminated => trivial

theorem fromOnePeer_of_attributed (loop : ReceiveLoop Peer) (frame : Frame Peer)
    (rest : List (Frame Peer)) (attributed : Attributed loop (frame :: rest)) :
    ∀ effect ∈ emit network keyExchange loop frame, FromOnePeer network effect := by
  rcases attributed with ⟨-, held⟩
  rcases loop with ⟨awaiting, handshakes⟩
  intro effect member
  cases awaiting with
  | epub clientIdentity workload spub =>
      by_cases agreed : keyExchange handshakes (spub.data network) (frame.data network) = true
      · simp only [emit, agreed, if_true, List.mem_singleton] at member
        subst member
        trivial
      · simp [emit, agreed] at member
  | clientID clientIdentity workload =>
      rcases held with ⟨peer, rfl, greets, adjacent⟩
      obtain ⟨data, rfl⟩ := adjacent frame rfl
      obtain rfl := List.mem_singleton.mp member
      exact ⟨peer, rfl, rfl, greets, rfl⟩
  | _ => simp [emit] at member

/-- Wherever the loop stands in a stream of whole messages, every request pushed
so far is one peer's, if the identities matched at every frame read. -/
theorem pushed_from_one_peer (network : Network Peer)
    (keyExchange : Nat → Bytes → Bytes → Bool) (messages : List (Message Peer))
    {received : List (Frame Peer)} (delivered : received <+: wire messages)
    (matched : (waitRequest network keyExchange).Along (IdentitiesMatch network) start received) :
    ∀ effect ∈ (waitRequest network keyExchange).outputs start received,
      FromOnePeer network effect :=
  Transducer.outputs_all attributed_next
    (fun loop frame rest attributed _ => fromOnePeer_of_attributed loop frame rest attributed)
    ⟨(framed_wire messages).received delivered, trivial⟩ matched

/-! ### Two peers -/

/-- Peer B comes after peer A has identified itself. -/
def inTurn : List (Message Bool) :=
  [Server.greetingMessage false, Server.clientIDMessage false,
    Server.greetingMessage true, Server.clientIDMessage true]

/-- The requests of two peers that take turns. -/
theorem pushed_from_one_peer_in_turn :
    effects twoPeers (Server.keyExchange Server.sampleConfig) inTurn =
        [.sentKeys (ascii "peer A"),
          .pushed ⟨ascii "peer A", ascii "TESTING_CLIENT", ascii "127.0.0.1"⟩
            (.payload false greeting) (.payload false (ascii "TESTING_CLIENT")),
          .sentKeys (ascii "peer B"),
          .pushed ⟨ascii "peer B", ascii "TESTING_CLIENT", ascii "10.0.0.2"⟩
            (.payload true greeting) (.payload true (ascii "TESTING_CLIENT"))] ∧
      ∀ effect ∈ effects twoPeers (Server.keyExchange Server.sampleConfig) inTurn,
        FromOnePeer twoPeers effect :=
  ⟨by decide +kernel,
    pushed_from_one_peer twoPeers _ inTurn List.prefix_rfl (by decide +kernel)⟩

/-- Peer A greets, peer B sends its client ID before A does: A is credited with
the client ID and the address of B. -/
theorem pushed_from_two_peers :
    Effect.pushed ⟨ascii "peer A", ascii "CLIENT_B", ascii "10.0.0.2"⟩
        (.payload false greeting) (.payload true (ascii "CLIENT_B")) ∈
        effects twoPeers (Server.keyExchange Server.sampleConfig)
          [Server.greetingMessage false, ⟨true, [ascii "CLIENT_B"], List.cons_ne_nil _ _⟩] ∧
      ¬ FromOnePeer twoPeers (.pushed ⟨ascii "peer A", ascii "CLIENT_B", ascii "10.0.0.2"⟩
        (.payload false greeting) (.payload true (ascii "CLIENT_B"))) := by
  refine ⟨by decide +kernel, ?_⟩
  rintro ⟨peer, -, -, greeted, named⟩
  injection greeted with first
  injection named with second
  exact absurd (first.trans second.symm) (by decide)

end LicensingServer.ReceiveLoop
