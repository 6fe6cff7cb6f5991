import LicensingServer.Sessions.World

/-!
Owns what an honest client holds at each of its statements when its socket is
delivered a front part of the frames that are meant for it: it cannot fail, and
the value that it returns is the result in the last frame.

Does not own when the frames are delivered.
-/

set_option autoImplicit false

namespace LicensingServer

open LicensingServer.Foundations

namespace ClientThread

/-- The number of statements up to the return. -/
def remaining : ClientThread → Nat
  | .initKeyExchangeParams => 10
  | .sendGreeting => 9
  | .recvSpub => 8
  | .recvEpub _ => 7
  | .genXport _ _ => 6
  | .recvXport => 5
  | .decryptXport _ => 4
  | .sendID => 3
  | .recvAck => 2
  | .decrypt _ => 1
  | .returned _ | .failed _ => 0

/-- The number of frames without which the next statement blocks. -/
def needs : ClientThread → Nat
  | .recvSpub => 1
  | .recvEpub _ => 2
  | .recvXport => 3
  | .recvAck => 4
  | _ => 0

/-- The greeting was sent. -/
def HasGreeted (thread : ClientThread) : Prop := thread.remaining ≤ 8

/-- The client ID was sent. -/
def HasIdentified (thread : ClientThread) : Prop := thread.remaining ≤ 2

theorem needs_le (thread : ClientThread) : thread.needs ≤ 4 := by
  cases thread <;> simp [needs]

theorem needs_of_not_greeted {thread : ClientThread} (silent : ¬ thread.HasGreeted) :
    thread.needs = 0 := by
  cases thread with
  | recvSpub | recvEpub spub | recvXport | recvAck =>
      exact absurd (by simp [HasGreeted, remaining]) silent
  | _ => rfl

theorem needs_of_not_identified {thread : ClientThread} (unidentified : ¬ thread.HasIdentified) :
    thread.needs ≤ 3 := by
  cases thread with
  | recvAck => exact absurd (Nat.le_refl 2) unidentified
  | recvSpub | recvEpub spub | recvXport => simp [needs]
  | _ => exact Nat.zero_le 3

end ClientThread

namespace Parties

variable {n : Nat} (parties : Parties n)

/-- The two messages of a client. -/
def greetingMessage (i : Fin n) : Message (Fin n) where
  sender := i
  payload := [greeting,
    Crypto.blockHexStr parties.config.lib (parties.draw i).staticPublic,
    Crypto.blockHexStr parties.config.lib (parties.draw i).ephemeralPublic]
  nonempty := List.cons_ne_nil _ _

def idMessage (i : Fin n) : Message (Fin n) where
  sender := i
  payload := [parties.clientID i]
  nonempty := List.cons_ne_nil _ _

def sends (i : Fin n) : ClientThread → Option (Message (Fin n))
  | .sendGreeting => some (parties.greetingMessage i)
  | .sendID => some (parties.idMessage i)
  | _ => none

/-- What both parties make of their own private and the other's public keys. -/
structure SharedSecret (i : Fin n) (shared : Bytes) : Prop where
  server : parties.config.lib.agree (parties.config.draws i).staticPrivate
    (parties.config.draws i).ephemeralPrivate (parties.draw i).staticPublic
    (parties.draw i).ephemeralPublic = some shared
  client : parties.config.lib.agree (parties.draw i).staticPrivate
    (parties.draw i).ephemeralPrivate (parties.config.draws i).staticPublic
    (parties.config.draws i).ephemeralPublic = some shared

/-- What a client holds, by the statement that it is at. -/
def ClientInPlace (i : Fin n) (isValid : Bool) (client : Client) : Prop :=
  match client.thread with
  | .initKeyExchangeParams => client.crypto = .initial ∧ client.got = 0
  | .sendGreeting | .recvSpub =>
      client.crypto = Crypto.initial.withKeys (parties.draw i) ∧ client.got = 0
  | .recvEpub spub =>
      client.crypto = Crypto.initial.withKeys (parties.draw i) ∧ client.got = 1 ∧
        (parties.frames i isValid)[0]? = some spub
  | .genXport spub epub =>
      client.crypto = Crypto.initial.withKeys (parties.draw i) ∧ client.got = 2 ∧
        (parties.frames i isValid)[0]? = some spub ∧ (parties.frames i isValid)[1]? = some epub
  | .recvXport =>
      (∃ shared, parties.SharedSecret i shared ∧
        client.crypto.kek = Crypto.kekOf shared) ∧ client.got = 2
  | .decryptXport xport =>
      (∃ shared, parties.SharedSecret i shared ∧
        client.crypto.kek = Crypto.kekOf shared) ∧ client.got = 3 ∧
        (parties.frames i isValid)[2]? = some xport
  | .sendID | .recvAck =>
      client.crypto.cek = (parties.config.draws i).contentKey ∧ client.got = 3
  | .decrypt ack =>
      client.crypto.cek = (parties.config.draws i).contentKey ∧ client.got = 4 ∧
        (parties.frames i isValid)[3]? = some ack
  | .returned result => result = isValid ∧ client.got = 4
  | .failed _ => False

variable {parties} {answer : Fin n → Bool}

/-! ### The keys -/

theorem exists_sharedSecret (regular : parties.Regular answer) (i : Fin n) :
    ∃ shared, parties.SharedSecret i shared := by
  obtain ⟨shared, server, client⟩ := regular.lawful.agree_symmetric
    (parties.config.draws i).static_generated (parties.config.draws i).ephemeral_generated
    (parties.draw i).static_generated (parties.draw i).ephemeral_generated
  exact ⟨shared, server, client⟩

theorem SharedSecret.sentXport {i : Fin n} {shared : Bytes}
    (secret : parties.SharedSecret i shared) :
    Crypto.sentXport (parties.config.draws i) (parties.draw i) =
      Crypto.wrap parties.config.lib shared (parties.config.draws i).contentKey := by
  rw [Crypto.sentXport, secret.server]

/-- None of the five blocks of a session loses a zero byte. -/
structure FullBlocks (i : Fin n) : Prop where
  serverStatic : ¬ Crypto.LeadsWithZero (parties.config.draws i).staticPublic
  serverEphemeral : ¬ Crypto.LeadsWithZero (parties.config.draws i).ephemeralPublic
  clientStatic : ¬ Crypto.LeadsWithZero (parties.draw i).staticPublic
  clientEphemeral : ¬ Crypto.LeadsWithZero (parties.draw i).ephemeralPublic
  xport : ¬ Crypto.LeadsWithZero
    (Crypto.sentXport (parties.config.draws i) (parties.draw i))

theorem Regular.fullBlocks (regular : parties.Regular answer) (i : Fin n) :
    parties.FullBlocks i := by
  have full := regular.full i
  simp only [Crypto.exchanged, List.forall_mem_cons] at full
  rcases full with ⟨serverStatic, serverEphemeral, clientStatic, clientEphemeral, xport, -⟩
  exact ⟨serverStatic, serverEphemeral, clientStatic, clientEphemeral, xport⟩

/-- `genXport` on the texts of the server's keys. -/
theorem runGenXport_client (regular : parties.Regular answer) {i : Fin n} {shared : Bytes}
    (secret : parties.SharedSecret i shared) :
    Crypto.runGenXport (parties.draw i)
        (Crypto.blockHexStr parties.config.lib (parties.config.draws i).staticPublic)
        (Crypto.blockHexStr parties.config.lib (parties.config.draws i).ephemeralPublic)
        (Crypto.initial.withKeys (parties.draw i)) =
      .ok ((Crypto.initial.withKeys (parties.draw i)).withXport (parties.draw i) shared) := by
  have full := regular.fullBlocks i
  rw [Crypto.runGenXport_eq regular.lawful _ _ _ rfl,
    Crypto.agreed_blockHexStr regular.lawful _ _ _ secret.client, if_neg]
  exact not_or.mpr ⟨full.serverStatic, full.serverEphemeral⟩

/-- `decryptXport` on the text of the server's wrapped key. -/
theorem decryptXport_client (regular : parties.Regular answer) {i : Fin n} {shared : Bytes}
    (secret : parties.SharedSecret i shared) {crypto : Crypto}
    (kek : crypto.kek = Crypto.kekOf shared) :
    ∃ next, Crypto.decryptXport parties.config.lib crypto
        (Crypto.blockHexStr parties.config.lib
          (Crypto.sentXport (parties.config.draws i) (parties.draw i))) = .ok next ∧
      next.cek = (parties.config.draws i).contentKey := by
  have full := (regular.fullBlocks i).xport
  rw [secret.sentXport] at full ⊢
  have sharedLength := regular.lawful.agree_length secret.server
  exact ⟨_, (Crypto.decryptXport_blockHexStr regular.lawful _ crypto sharedLength kek).1 full, rfl⟩

/-- `decrypt` on the server's result. -/
theorem decrypt_client (regular : parties.Regular answer) {i : Fin n} {crypto : Crypto}
    (cek : crypto.cek = (parties.config.draws i).contentKey) (text : Bytes) :
    Crypto.decrypt parties.config.lib crypto (CipherMode.encryptMessage parties.config.lib.aes
      (parties.config.draws i).contentKey Crypto.iv text) = .ok text := by
  have length : crypto.cek.length = defaultKeyLength := by
    rw [cek]
    exact (parties.config.draws i).contentKey_length
  obtain ⟨cipherText, encrypted, decrypted⟩ :=
    Crypto.decrypt_encrypt regular.lawful length (Eq.refl crypto.cek) text
  rw [Crypto.encrypt, readBlock_of_eq length] at encrypted
  obtain rfl := Except.ok.inj encrypted
  rw [← cek]
  exact decrypted

theorem isSuccessful_reply (isValid : Bool) :
    Client.isSuccessful (Server.reply isValid) = isValid := by
  cases isValid <;> decide

/-! ### One statement -/

/-- A frame that is read is the one that is meant for the client there. -/
theorem recv_eq_some {client next : Client} {delivered frames : List Bytes}
    (isPrefix : delivered <+: frames) {goOn : Bytes → ClientThread}
    {message : Option (Message (Fin n))}
    (taken : client.recv delivered goOn = some (next, message)) :
    ∃ frame, frames[client.got]? = some frame ∧ client.got + 1 ≤ delivered.length ∧
      next = { client with thread := goOn frame, got := client.got + 1 } ∧ message = none := by
  obtain ⟨frame, waiting, same⟩ := Option.map_eq_some_iff.mp taken
  obtain ⟨rfl, rfl⟩ := Prod.mk.inj same
  have within := (List.getElem?_eq_some_iff.mp waiting).1
  rcases isPrefix with ⟨rest, rfl⟩
  refine ⟨frame, ?_, within, rfl, rfl⟩
  rw [List.getElem?_append_left within]
  exact waiting

/-- A client goes on from statement to statement. -/
structure GoesOn (i : Fin n) (isValid : Bool) (delivered : List Bytes) (client next : Client)
    (message : Option (Message (Fin n))) : Prop where
  inPlace : parties.ClientInPlace i isValid next
  remaining : next.thread.remaining + 1 = client.thread.remaining
  message : message = parties.sends i client.thread
  got : next.got = client.got ∨ next.got ≤ delivered.length

theorem ClientInPlace.goesOn (regular : parties.Regular answer) {i : Fin n}
    {client next : Client} {delivered : List Bytes} {message : Option (Message (Fin n))}
    (inPlace : parties.ClientInPlace i (answer i) client)
    (isPrefix : delivered <+: parties.frames i (answer i))
    (taken : client.connectAndGetAuthToken i (parties.draw i) (parties.clientID i) delivered =
      some (next, message)) :
    parties.GoesOn i (answer i) delivered client next message := by
  obtain ⟨shared, secret⟩ := exists_sharedSecret regular i
  rcases client with ⟨crypto, thread, got⟩
  cases thread with
  | initKeyExchangeParams =>
      rcases inPlace with ⟨rfl, rfl⟩
      simp only [Client.connectAndGetAuthToken, Crypto.runInitKeyExchangeParams_eq,
        regular.clientGroup i, if_true] at taken
      obtain ⟨rfl, rfl⟩ := Prod.mk.inj (Option.some.inj taken)
      exact ⟨⟨rfl, rfl⟩, rfl, rfl, .inl rfl⟩
  | sendGreeting =>
      rcases inPlace with ⟨rfl, rfl⟩
      obtain ⟨rfl, rfl⟩ := Prod.mk.inj (Option.some.inj taken)
      exact ⟨⟨rfl, rfl⟩, rfl, rfl, .inl rfl⟩
  | recvSpub =>
      rcases inPlace with ⟨rfl, rfl⟩
      obtain ⟨frame, isNext, within, rfl, rfl⟩ := recv_eq_some isPrefix taken
      exact ⟨⟨rfl, rfl, isNext⟩, rfl, rfl, .inr within⟩
  | recvEpub spub =>
      rcases inPlace with ⟨rfl, rfl, isSpub⟩
      obtain ⟨frame, isNext, within, rfl, rfl⟩ := recv_eq_some isPrefix taken
      exact ⟨⟨rfl, rfl, isSpub, isNext⟩, rfl, rfl, .inr within⟩
  | genXport spub epub =>
      rcases inPlace with ⟨rfl, rfl, isSpub, isEpub⟩
      obtain rfl := Option.some.inj isSpub
      obtain rfl := Option.some.inj isEpub
      simp only [Client.connectAndGetAuthToken, runGenXport_client regular secret] at taken
      obtain ⟨rfl, rfl⟩ := Prod.mk.inj (Option.some.inj taken)
      exact ⟨⟨⟨shared, secret, rfl⟩, rfl⟩, rfl, rfl, .inl rfl⟩
  | recvXport =>
      rcases inPlace with ⟨agreed, rfl⟩
      obtain ⟨frame, isNext, within, rfl, rfl⟩ := recv_eq_some isPrefix taken
      exact ⟨⟨agreed, rfl, isNext⟩, rfl, rfl, .inr within⟩
  | decryptXport xport =>
      rcases inPlace with ⟨⟨other, agreed, kek⟩, rfl, isXport⟩
      obtain rfl := Option.some.inj isXport
      obtain ⟨after, done, cek⟩ := decryptXport_client regular agreed kek
      simp only [Client.connectAndGetAuthToken, done] at taken
      obtain ⟨rfl, rfl⟩ := Prod.mk.inj (Option.some.inj taken)
      exact ⟨⟨cek, rfl⟩, rfl, rfl, .inl rfl⟩
  | sendID =>
      obtain ⟨rfl, rfl⟩ := Prod.mk.inj (Option.some.inj taken)
      exact ⟨inPlace, rfl, rfl, .inl rfl⟩
  | recvAck =>
      rcases inPlace with ⟨cek, rfl⟩
      obtain ⟨frame, isNext, within, rfl, rfl⟩ := recv_eq_some isPrefix taken
      exact ⟨⟨cek, rfl, isNext⟩, rfl, rfl, .inr within⟩
  | decrypt ack =>
      rcases inPlace with ⟨cek, rfl, isAck⟩
      obtain rfl := Option.some.inj isAck
      simp only [Client.connectAndGetAuthToken, decrypt_client regular cek] at taken
      obtain ⟨rfl, rfl⟩ := Prod.mk.inj (Option.some.inj taken)
      exact ⟨⟨isSuccessful_reply _, rfl⟩, rfl, rfl, .inl rfl⟩
  | returned result => cases taken
  | failed fault => cases taken

/-- A client that has not returned goes on as soon as the frames are there that
it needs. -/
theorem ClientInPlace.exists_next {i : Fin n} {isValid : Bool} {client : Client}
    {delivered : List Bytes} (inPlace : parties.ClientInPlace i isValid client)
    (running : client.thread.remaining ≠ 0) (enough : client.thread.needs ≤ delivered.length) :
    ∃ next message, client.connectAndGetAuthToken i (parties.draw i) (parties.clientID i)
      delivered = some (next, message) := by
  have reads (goOn : Bytes → ClientThread) (needs : client.thread.needs = client.got + 1) :
      ∃ next message, @Client.recv (Fin n) client delivered goOn = some (next, message) := by
    have within : client.got < delivered.length := by omega
    exact ⟨_, none, by rw [Client.recv, List.getElem?_eq_getElem within]; rfl⟩
  rcases client with ⟨crypto, thread, got⟩
  cases thread with
  | recvSpub => exact reads _ (by rw [inPlace.2]; rfl)
  | recvEpub spub => exact reads _ (by rw [inPlace.2.1]; rfl)
  | recvXport => exact reads _ (by rw [inPlace.2]; rfl)
  | recvAck => exact reads _ (by rw [inPlace.2]; rfl)
  | decrypt ack =>
      cases result : Crypto.decrypt parties.config.lib crypto ack with
      | error fault =>
          exact ⟨⟨crypto, .failed fault, got⟩, none, by simp only [Client.connectAndGetAuthToken, result]⟩
      | ok text =>
          exact ⟨⟨crypto, .returned (Client.isSuccessful text), got⟩, none,
            by simp only [Client.connectAndGetAuthToken, result]⟩
  | returned result => exact absurd rfl running
  | failed fault => exact absurd rfl running
  | _ => exact ⟨_, _, rfl⟩

end Parties

end LicensingServer
