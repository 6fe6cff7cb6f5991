import LicensingServer.Sessions.Client
import LicensingServer.Server.Survival
import LicensingServer.Server.Outgoing
import Mathlib.Data.List.FinRange

/-!
Owns the server together with honest clients that take turns: a client greets
only after the reply to the one before it was sent, and nobody else sends.

Does not own what happens when clients overlap.
-/

set_option autoImplicit false

namespace LicensingServer

open LicensingServer.Foundations

/-- A server and its clients, in the order of their turns. -/
structure Parties (n : Nat) where
  config : Config (Fin n)
  draw : Fin n → KeyDraw config.lib
  clientID : Fin n → Bytes

structure World (n : Nat) where
  server : Server (Fin n)
  clients : Fin n → Client

/-- Who moves. -/
inductive Turn (n : Nat)
  | waitRequest
  | processRequest
  | client (i : Fin n)

namespace Parties

variable {n : Nat} (parties : Parties n)

/-- The frames behind the identity, of the messages to a client. -/
def deliveredTo (identity : Bytes) (messages : List (List OutFrame)) : List Bytes :=
  messages.flatMap fun
    | [] => []
    | first :: rest => if first.data = identity then rest.map OutFrame.data else []

/-- What the socket of a client has been delivered. -/
def delivered (world : World n) (i : Fin n) : List Bytes :=
  deliveredTo (parties.config.network.identity i) world.server.outgoing.complete

/-- The turn of this client has come. -/
def MayGreet (world : World n) (i : Fin n) : Prop :=
  (world.clients i).thread = .sendGreeting → i.val ≤ world.server.replied.length

instance (world : World n) (i : Fin n) : Decidable (MayGreet world i) :=
  inferInstanceAs (Decidable (_ → _))

def clientStep (world : World n) (i : Fin n) : Option (World n) :=
  if MayGreet world i then
    match (world.clients i).connectAndGetAuthToken i (parties.draw i) (parties.clientID i)
        (parties.delivered world i) with
    | none => none
    | some (client, none) => some { world with clients := Function.update world.clients i client }
    | some (client, some message) =>
        ((Server.system parties.config).step world.server (.arrive message)).map fun server =>
          ⟨server, Function.update world.clients i client⟩
  else none

/-- The server in any prior state of its `Crypto` object, and clients that have
not begun. -/
def system : TransitionSystem (World n) (Turn n) where
  initial world := ∃ crypto, world = ⟨.boot crypto, fun _ => .initial⟩
  step world
    | .waitRequest => ((Server.system parties.config).step world.server .waitRequest).map fun server =>
        { world with server }
    | .processRequest =>
        ((Server.system parties.config).step world.server .processRequest).map fun server =>
          { world with server }
    | .client i => parties.clientStep world i

/-! ### What is to happen -/

/-- The request that a client's session leads to. -/
def request (i : Fin n) : LoginRequest where
  clientIdentity := parties.config.network.identity i
  clientID := parties.clientID i
  ip := parties.config.network.address i

/-- The requests of the clients whose turns come before. -/
def earlier (i : Fin n) : List LoginRequest :=
  ((List.finRange n).take i.val).map parties.request

/-- The frames for a client whose request is answered so. -/
def frames (i : Fin n) (isValid : Bool) : List Bytes :=
  [Crypto.blockHexStr parties.config.lib (parties.config.draws i).staticPublic,
    Crypto.blockHexStr parties.config.lib (parties.config.draws i).ephemeralPublic,
    Crypto.blockHexStr parties.config.lib
      (Crypto.sentXport (parties.config.draws i) (parties.draw i)),
    CipherMode.encryptMessage parties.config.lib.aes (parties.config.draws i).contentKey Crypto.iv
      (Server.reply isValid)]

/-- Crypto++ behaves as documented, `ValidateGroup` accepts the group, no block
that crosses the wire begins with a zero byte, and `checkLoginRequest` answers
each request and throws nothing. -/
structure Regular (answer : Fin n → Bool) : Prop where
  lawful : parties.config.lib.Lawful
  serverGroup : ∀ i : Fin n, (parties.config.draws i).groupValid = true
  clientGroup : ∀ i, (parties.draw i).groupValid = true
  full : ∀ i : Fin n, ∀ block ∈ Crypto.exchanged (parties.config.draws i) (parties.draw i),
    ¬ Crypto.LeadsWithZero block
  answers : ∀ i, parties.config.check (parties.earlier i) (parties.request i) = .ok (answer i)

end Parties

end LicensingServer
