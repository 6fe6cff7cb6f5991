import LicensingServer.Crypto.KeyAgreement
import LicensingServer.Server.Router

/-!
Owns `Client::connectAndGetAuthToken`, statement by statement, over the frames
that its socket has been delivered.

Does not own how the frames get to the socket.
-/

set_option autoImplicit false

namespace LicensingServer

open LicensingServer.Foundations

/-- The statement that `connectAndGetAuthToken` executes next, with the frames
that its variables were read from. -/
inductive ClientThread
  | initKeyExchangeParams
  | sendGreeting
  | recvSpub
  | recvEpub (spub : Bytes)
  | genXport (spub epub : Bytes)
  | recvXport
  | decryptXport (xport : Bytes)
  | sendID
  | recvAck
  | decrypt (ack : Bytes)
  | returned (isValid : Bool)
  /-- An exception has left the function. -/
  | failed (fault : Fault)
deriving DecidableEq, Repr

structure Client where
  crypto : Crypto
  thread : ClientThread
  /-- The number of frames read. -/
  got : Nat
deriving DecidableEq, Repr

namespace Client

def initial : Client := ⟨.initial, .initKeyExchangeParams, 0⟩

variable {Peer : Type} {lib : CryptoPP}

/-- `s_recv`, which blocks while there is no further frame. -/
def recv (client : Client) (delivered : List Bytes) (goOn : Bytes → ClientThread) :
    Option (Client × Option (Message Peer)) :=
  (delivered[client.got]?).map fun frame =>
    ({ client with thread := goOn frame, got := client.got + 1 }, none)

/-- Go on with what a member function of `crypto` leaves behind. -/
def call (client : Client) (done : Except Fault Crypto) (thread : ClientThread) : Client :=
  match done with
  | .error fault => { client with thread := .failed fault }
  | .ok crypto => { client with crypto, thread }

/-- What is made of the decrypted result. -/
def isSuccessful (ack : Bytes) : Bool :=
  if ack = successfulLoginReply then true
  else if ack = failedLoginReply then false
  else false

/-- One statement of a client with the identity `_id`, and the message that it
sends. -/
def connectAndGetAuthToken (peer : Peer) (draw : KeyDraw lib) (id : Bytes)
    (delivered : List Bytes) (client : Client) : Option (Client × Option (Message Peer)) :=
  match client.thread with
  | .initKeyExchangeParams =>
      some (client.call (Crypto.runInitKeyExchangeParams draw client.crypto) .sendGreeting, none)
  | .sendGreeting =>
      some ({ client with thread := .recvSpub }, some
        ⟨peer, [greeting, Crypto.spubHexStr lib client.crypto, Crypto.epubHexStr lib client.crypto],
          List.cons_ne_nil _ _⟩)
  | .recvSpub => client.recv delivered .recvEpub
  | .recvEpub spub => client.recv delivered (.genXport spub)
  | .genXport spub epub =>
      some (client.call (Crypto.runGenXport draw spub epub client.crypto) .recvXport, none)
  | .recvXport => client.recv delivered .decryptXport
  | .decryptXport xport =>
      some (client.call (Crypto.decryptXport lib client.crypto xport) .sendID, none)
  | .sendID =>
      some ({ client with thread := .recvAck }, some ⟨peer, [id], List.cons_ne_nil _ _⟩)
  | .recvAck => client.recv delivered .decrypt
  | .decrypt ack =>
      match Crypto.decrypt lib client.crypto ack with
      | .error fault => some ({ client with thread := .failed fault }, none)
      | .ok text => some ({ client with thread := .returned (isSuccessful text) }, none)
  | .returned _ | .failed _ => none

end Client

end LicensingServer
