import LicensingServer.Basic
import Mathlib.Logic.Function.Basic

/-!
Owns what the ROUTER socket hands to the server: peers with their identities
and addresses, multipart messages, and the frames that `s_recv` returns one by
one.

Does not own what the server does with the frames.
-/

set_option autoImplicit false

namespace LicensingServer

open LicensingServer.Foundations

/-- The peers of the socket. The router keeps their identities apart. -/
structure Network (Peer : Type) where
  identity : Peer → Bytes
  address : Peer → Bytes
  identity_injective : Function.Injective identity

/-- Two peers at different addresses. -/
def twoPeers : Network Bool where
  identity peer := if peer then ascii "peer B" else ascii "peer A"
  address peer := if peer then ascii "10.0.0.2" else ascii "127.0.0.1"
  identity_injective := by
    intro left right
    revert left right
    decide

/-- A multipart message; it has at least one frame. -/
structure Message (Peer : Type) where
  sender : Peer
  payload : List Bytes
  nonempty : payload ≠ []
deriving DecidableEq

/-- A received frame: the identity that the router puts before a message, or a
frame that the peer sent. -/
inductive Frame (Peer : Type)
  | identity (sender : Peer)
  | payload (sender : Peer) (data : Bytes)
deriving DecidableEq, Repr

namespace Frame

variable {Peer : Type} (network : Network Peer)

def sender : Frame Peer → Peer
  | .identity peer => peer
  | .payload peer _ => peer

/-- The bytes that `s_recv` makes a string of. -/
def data : Frame Peer → Bytes
  | .identity peer => network.identity peer
  | .payload _ bytes => bytes

/-- The frame was put there by the router. -/
def IsIdentity : Frame Peer → Prop
  | .identity _ => True
  | .payload _ _ => False

instance (frame : Frame Peer) : Decidable frame.IsIdentity :=
  match frame with
  | .identity _ => .isTrue trivial
  | .payload _ _ => .isFalse id

/-- `message.gets("Peer-Address")`; the router marks identity frames with it as
well. -/
def peerAddress (frame : Frame Peer) : Bytes := network.address frame.sender

end Frame

variable {Peer : Type}

namespace Message

def frames (message : Message Peer) : List (Frame Peer) :=
  .identity message.sender :: message.payload.map (.payload message.sender)

end Message

/-- The frames of whole messages, in order of arrival. -/
def wire (messages : List (Message Peer)) : List (Frame Peer) := messages.flatMap Message.frames

@[simp] theorem wire_nil : wire ([] : List (Message Peer)) = [] := rfl

@[simp] theorem wire_cons (message : Message Peer) (rest : List (Message Peer)) :
    wire (message :: rest) = message.frames ++ wire rest := rfl

@[simp] theorem wire_append (left right : List (Message Peer)) :
    wire (left ++ right) = wire left ++ wire right := List.flatMap_append

/-- Behind an identity frame there is nothing yet, or a frame that its peer sent. -/
def Framed : List (Frame Peer) → Prop
  | [] => True
  | frame :: rest =>
      (∀ peer, frame = .identity peer → ∀ next ∈ rest.head?, ∃ data, next = .payload peer data) ∧
        Framed rest

theorem framed_payload (sender : Peer) (payload : List Bytes) {rest : List (Frame Peer)}
    (framed : Framed rest) : Framed (payload.map (Frame.payload sender) ++ rest) := by
  induction payload with
  | nil => exact framed
  | cons data more inductionHypothesis =>
      refine ⟨?_, inductionHypothesis⟩
      rintro peer ⟨⟩

theorem framed_wire (messages : List (Message Peer)) : Framed (wire messages) := by
  induction messages with
  | nil => trivial
  | cons message rest inductionHypothesis =>
      rcases message with ⟨sender, payload, nonempty⟩
      refine ⟨?_, framed_payload sender payload inductionHypothesis⟩
      rintro peer ⟨⟩ next isNext
      cases payload with
      | nil => exact absurd rfl nonempty
      | cons data more =>
          obtain rfl := Option.some.inj isNext
          exact ⟨data, rfl⟩

theorem Framed.received {received frames : List (Frame Peer)} (framed : Framed frames)
    (isPrefix : received <+: frames) : Framed received := by
  induction received generalizing frames with
  | nil => trivial
  | cons frame more inductionHypothesis =>
      rcases isPrefix with ⟨rest, rfl⟩
      rcases framed with ⟨adjacent, tail⟩
      refine ⟨?_, inductionHypothesis tail ⟨rest, rfl⟩⟩
      intro peer same next isNext
      apply adjacent peer same next
      cases more with
      | nil => cases isNext
      | cons head others => exact isNext

end LicensingServer
