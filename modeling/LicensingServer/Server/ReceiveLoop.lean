import LicensingServer.Server.Router
import LicensingServer.Foundations.Transducer

/-!
Owns the body of `waitRequest_t` as a consumer of frames: which frame it asks
for next, which local variables it holds then, the identities it sends keys to,
and the requests it pushes.

Does not own the key exchange, of which only the outcome matters here, nor how
the loop's statements interleave with the processing thread.
-/

set_option autoImplicit false

namespace LicensingServer

open LicensingServer.Foundations

variable {Peer : Type}

/-- The call of `s_recv` or `recv` that the loop makes next, with the frames
that its variables were read from. -/
inductive Awaiting (Peer : Type)
  | clientIdentity
  | workload (clientIdentity : Frame Peer)
  | spub (clientIdentity workload : Frame Peer)
  | epub (clientIdentity workload spub : Frame Peer)
  /-- The identity that is read and thrown away. -/
  | dummyIdentity (clientIdentity workload : Frame Peer)
  | clientID (clientIdentity workload : Frame Peer)
  /-- An exception has left the loop. -/
  | terminated
deriving DecidableEq, Repr

structure ReceiveLoop (Peer : Type) where
  awaiting : Awaiting Peer
  /-- The number of key exchanges begun so far. -/
  handshakes : Nat
deriving DecidableEq, Repr

/-- What the loop does besides reading. A pushed request comes with the frames
that were read as its greeting and its client ID. -/
inductive Effect (Peer : Type)
  | sentKeys (clientIdentity : Bytes)
  | pushed (request : LoginRequest) (workload message : Frame Peer)
deriving DecidableEq, Repr

namespace ReceiveLoop

def start : ReceiveLoop Peer := ⟨.clientIdentity, 0⟩

/-- The loop is about to read the identity of a new message. -/
def AtStart (loop : ReceiveLoop Peer) : Prop := loop.awaiting = .clientIdentity

instance (loop : ReceiveLoop Peer) [DecidableEq Peer] : Decidable loop.AtStart :=
  inferInstanceAs (Decidable (_ = _))

section

variable (network : Network Peer) (keyExchange : Nat → Bytes → Bytes → Bool)

/-- Read one frame and go on to the next call. `keyExchange n` tells whether
`initKeyExchangeParams` and `genXport` return in the key exchange number `n`. -/
def next (loop : ReceiveLoop Peer) (frame : Frame Peer) : ReceiveLoop Peer :=
  match loop.awaiting with
  | .clientIdentity => { loop with awaiting := .workload frame }
  | .workload clientIdentity =>
      -- `continue` does not read what is left of the message
      if frame.data network ≠ greeting then { loop with awaiting := .clientIdentity }
      else { loop with awaiting := .spub clientIdentity frame }
  | .spub clientIdentity workload => { loop with awaiting := .epub clientIdentity workload frame }
  | .epub clientIdentity workload spub =>
      if keyExchange loop.handshakes (spub.data network) (frame.data network) then
        ⟨.dummyIdentity clientIdentity workload, loop.handshakes + 1⟩
      else ⟨.terminated, loop.handshakes + 1⟩
  | .dummyIdentity clientIdentity workload =>
      { loop with awaiting := .clientID clientIdentity workload }
  | .clientID _ _ => { loop with awaiting := .clientIdentity }
  | .terminated => loop

def emit (loop : ReceiveLoop Peer) (frame : Frame Peer) : List (Effect Peer) :=
  match loop.awaiting with
  | .epub clientIdentity _ spub =>
      if keyExchange loop.handshakes (spub.data network) (frame.data network) then
        [.sentKeys (clientIdentity.data network)]
      else []
  | .clientID clientIdentity workload =>
      [.pushed ⟨clientIdentity.data network, frame.data network, frame.peerAddress network⟩
        workload frame]
  | _ => []

/-- `waitRequest_t` as a reader of frames. -/
def waitRequest : Transducer (ReceiveLoop Peer) (Frame Peer) (Effect Peer) where
  next := next network keyExchange
  emit := emit network keyExchange

/-- The loop after a list of messages. -/
def afterMessages (messages : List (Message Peer)) : ReceiveLoop Peer :=
  (waitRequest network keyExchange).after start (wire messages)

/-- What the loop does over a list of messages. -/
def effects (messages : List (Message Peer)) : List (Effect Peer) :=
  (waitRequest network keyExchange).outputs start (wire messages)

/-! ### More messages -/

theorem afterMessages_append (before after : List (Message Peer)) :
    afterMessages network keyExchange (before ++ after) =
      (waitRequest network keyExchange).after (afterMessages network keyExchange before)
        (wire after) := by
  rw [afterMessages, wire_append, Transducer.after_append]
  rfl

theorem effects_append (before after : List (Message Peer)) :
    effects network keyExchange (before ++ after) =
      effects network keyExchange before ++
        (waitRequest network keyExchange).outputs (afterMessages network keyExchange before)
          (wire after) := by
  rw [effects, wire_append, Transducer.outputs_append]
  rfl

end

theorem atStart_iff {loop : ReceiveLoop Peer} :
    loop.AtStart ↔ loop = ⟨.clientIdentity, loop.handshakes⟩ := by
  rcases loop with ⟨awaiting, handshakes⟩
  simp [AtStart]

end ReceiveLoop

end LicensingServer
