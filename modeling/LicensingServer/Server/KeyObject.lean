import LicensingServer.Crypto.Ownership
import LicensingServer.Server.Survival
import Mathlib.Data.List.Infix

/-!
Owns what the server does with the object behind `_dhA`, statement by statement
over whole runs: it is never used when it is not there, and every object made is
deleted once, except the one of an exchange that is open.

Does not own the destructor, which a server that runs for ever never comes to.
-/

set_option autoImplicit false

namespace LicensingServer

open LicensingServer.Foundations
open LicensingServer.Foundations.OwnedPointer

namespace Crypto

variable {lib : CryptoPP} {draw : KeyDraw lib}

/-! ### One statement -/

theorem live_of_dereference {crypto : Crypto} {value : Unit}
    (done : crypto.dereference = .ok value) : crypto.dhA = .live := by
  unfold dereference at done
  split_ifs at done with live
  exact live

/-- A pointer that is shown live can be dereferenced, which changes nothing. -/
theorem performAll_dereference {crypto : Crypto} {owner : Owner}
    (follows : crypto.dhA = shown owner.pointer) (live : crypto.dhA = .live) :
    performAll [.dereference] owner = some owner := by
  obtain ⟨object, held⟩ := (shown_eq_live_iff owner.pointer).mp (follows.symm.trans live)
  simp [perform, held]

/-- Only `new DH2` changes the pointer. -/
theorem init_effect_dhA {crypto next : Crypto} {statement : InitStatement}
    (done : statement.effect draw crypto = .ok next) :
    next.dhA = if statement = .newDh2 then .live else crypto.dhA := by
  cases statement with
  | validateGroup | verifyOrder =>
      simp only [InitStatement.effect] at done
      split_ifs at done
      cases done
      rfl
  | newDh2 =>
      cases done
      rfl
  | _ =>
      obtain ⟨_, _, done⟩ := except_bind_ok done
      cases done
      rfl

/-- Only the last two statements of `genXport` change the pointer. -/
theorem xport_effect_dhA {crypto next : Crypto} {locals after : XportLocals}
    {statement : XportStatement}
    (done : statement.effect lib draw crypto locals = .ok (next, after)) :
    next.dhA = if statement = .deleteDh2 then .indeterminate
      else if statement = .clearDh2 then .null else crypto.dhA := by
  cases statement with
  | agree =>
      obtain ⟨_, _, done⟩ := except_bind_ok done
      obtain ⟨_, _, done⟩ := except_bind_ok done
      obtain ⟨_, _, done⟩ := except_bind_ok done
      split at done
      · cases done
      · cases done
        rfl
  | allocateShared | assignKek | copyMack | wrapCek | digest =>
      obtain ⟨_, _, done⟩ := except_bind_ok done
      cases done
      rfl
  | _ =>
      cases done
      rfl

/-- The pointer is as its owner has it, and no object is lost. -/
structure Follows (crypto : Crypto) (owner : Owner) : Prop where
  shown : crypto.dhA = shown owner.pointer
  noneLost : NoneLost owner

theorem Follows.dead {crypto : Crypto} {owner : Owner} (follows : Follows crypto owner)
    (dead : crypto.dhA ≠ .live) (object : Nat) : owner.pointer ≠ .live object := by
  intro live
  exact dead (follows.shown.trans (by rw [live]; rfl))

/-- New keys lose no object where the pointer is not live. -/
theorem Follows.init {crypto next : Crypto} {owner : Owner} {statement : InitStatement}
    (follows : Follows crypto owner) (done : statement.effect draw crypto = .ok next)
    (inTurn : statement = .newDh2 → crypto.dhA ≠ .live) :
    ∃ after, performAll statement.actions owner = some after ∧ Follows next after := by
  have pointer := init_effect_dhA done
  cases statement with
  | validateGroup | verifyOrder =>
      exact ⟨owner, rfl, pointer.trans follows.shown, follows.noneLost⟩
  | newDh2 => exact ⟨_, rfl, pointer, follows.noneLost.allocate (follows.dead (inTurn rfl))⟩
  | _ =>
      obtain ⟨_, isLive, -⟩ := except_bind_ok done
      have live := live_of_dereference isLive
      exact ⟨owner, performAll_dereference follows.shown live, pointer.trans follows.shown,
        follows.noneLost⟩

/-- The object of an exchange is deleted where the pointer is live, and only then
is the pointer cleared. -/
theorem Follows.xport {crypto next : Crypto} {locals afterLocals : XportLocals} {owner : Owner}
    {statement : XportStatement} (follows : Follows crypto owner)
    (done : statement.effect lib draw crypto locals = .ok (next, afterLocals))
    (held : statement = .deleteDh2 → crypto.dhA = .live)
    (gone : statement = .clearDh2 → crypto.dhA ≠ .live) :
    ∃ after, performAll statement.actions owner = some after ∧ Follows next after := by
  have pointer := xport_effect_dhA done
  cases statement with
  | allocateShared | agree =>
      obtain ⟨_, isLive, -⟩ := except_bind_ok done
      have live := live_of_dereference isLive
      exact ⟨owner, performAll_dereference follows.shown live, pointer.trans follows.shown,
        follows.noneLost⟩
  | deleteDh2 =>
      obtain ⟨object, isHeld⟩ :=
        (shown_eq_live_iff owner.pointer).mp (follows.shown.symm.trans (held rfl))
      refine ⟨⟨.indeterminate, owner.allocated, owner.deleted ++ [object]⟩, ?_, pointer,
        follows.noneLost.delete isHeld .indeterminate⟩
      simp [XportStatement.actions, perform, isHeld]
  | clearDh2 =>
      refine ⟨{ owner with pointer := .null }, rfl, pointer, fun object lost => ?_⟩
      exact follows.noneLost object
        ⟨lost.allocated, lost.notDeleted, follows.dead (gone rfl) object⟩
  | _ => exact ⟨owner, rfl, pointer.trans follows.shown, follows.noneLost⟩

end Crypto

namespace Server

variable {Peer : Type}

/-! ### Where the object is -/

/-- The receive thread is between `new DH2` and `delete`. -/
def HoldsKeyObject : WaitThread Peer → Prop
  | .initKeys _ remaining => .newDh2 ∉ remaining
  | .genXport _ _ remaining => .deleteDh2 ∈ remaining
  | _ => False

/-- What the next statement of the receive thread does with `_dhA`. -/
def nextActions : WaitThread Peer → List Action
  | .initKeys _ (statement :: _) => statement.actions
  | .genXport _ _ (statement :: _) => statement.actions
  | _ => []

/-- What a step does with `_dhA`. -/
def stepActions (server : Server Peer) : Step Peer → List Action
  | .waitRequest => nextActions server.wait
  | _ => []

/-- What a run does with `_dhA`. -/
def runActions (config : Config Peer) : Server Peer → List (Step Peer) → List Action
  | _, [] => []
  | server, who :: rest =>
      match (system config).step server who with
      | none => []
      | some next => stepActions server who ++ runActions config next rest

/-- The object is there where the receive thread says so. -/
structure Tended (server : Server Peer) (owner : Owner) : Prop where
  follows : Crypto.Follows server.crypto owner
  live_iff : server.crypto.dhA = .live ↔ HoldsKeyObject server.wait

theorem newDh2_rest {statement : Crypto.InitStatement} {rest : List Crypto.InitStatement}
    (suffix : statement :: rest <:+ Crypto.initKeyExchangeParams) :
    .newDh2 ∉ rest ↔ statement = .newDh2 ∨ .newDh2 ∉ statement :: rest := by
  have once : Crypto.initKeyExchangeParams.Nodup := by decide
  have apart := (List.nodup_cons.mp (once.sublist suffix.sublist)).1
  constructor
  · intro absent
    by_cases same : statement = .newDh2
    · exact .inl same
    · right
      simp [Ne.symm same, absent]
  · rintro (rfl | absent)
    · exact apart
    · exact fun present => absent (List.mem_cons_of_mem _ present)

theorem deleteDh2_rest {statement : Crypto.XportStatement} {rest : List Crypto.XportStatement}
    (suffix : statement :: rest <:+ Crypto.genXport) :
    .deleteDh2 ∈ rest ↔ statement ≠ .deleteDh2 ∧ .deleteDh2 ∈ statement :: rest := by
  have once : Crypto.genXport.Nodup := by decide
  have apart := (List.nodup_cons.mp (once.sublist suffix.sublist)).1
  constructor
  · intro present
    refine ⟨?_, List.mem_cons_of_mem _ present⟩
    rintro rfl
    exact apart present
  · rintro ⟨other, present⟩
    exact (List.mem_cons.mp present).resolve_left (Ne.symm other)

/-- `Agree` comes before the object is deleted, and the pointer is cleared after. -/
theorem genXport_order : ∀ remaining ∈ Crypto.genXport.tails,
    (remaining.head? = some .agree → .deleteDh2 ∈ remaining) ∧
      (remaining.head? = some .clearDh2 → .deleteDh2 ∉ remaining) := by
  decide

/-! ### One step -/

variable {config : Config Peer}

theorem tended_waitMoves (lawful : config.lib.Lawful) {server next : Server Peer} {owner : Owner}
    (tended : Tended server owner) (inPlace : CryptoInPlace config server)
    (moves : WaitMoves config server next) :
    ∃ after, performAll (nextActions server.wait) owner = some after ∧ Tended next after := by
  rcases tended with ⟨follows, live⟩
  cases moves with
  | initFails place failed =>
      simp only [CryptoInPlace, place] at inPlace
      obtain ⟨rfl, -⟩ := inPlace.fails_iff.mp ⟨_, failed⟩
      refine ⟨owner, ?_, follows, live⟩
      rw [place]
      rfl
  | @initKeys session statement rest crypto place done =>
      simp only [CryptoInPlace, place] at inPlace
      obtain ⟨start, consumed, whole, -⟩ := inPlace
      simp only [place, HoldsKeyObject] at live
      have inTurn : statement = .newDh2 → server.crypto.dhA ≠ .live := by
        rintro rfl isLive
        exact live.mp isLive List.mem_cons_self
      obtain ⟨after, performed, nextFollows⟩ := follows.init done inTurn
      refine ⟨after, ?_, nextFollows, ?_⟩
      · rw [place]
        exact performed
      · change crypto.dhA = .live ↔ .newDh2 ∉ rest
        rw [Crypto.init_effect_dhA done, newDh2_rest ⟨consumed, whole⟩, ← live]
        split_ifs with same <;> simp [same]
  | @xportFails session locals statement rest fault place failed =>
      simp only [CryptoInPlace, place] at inPlace
      obtain ⟨rfl, -⟩ := (inPlace.fails_iff lawful).mp ⟨_, failed⟩
      obtain ⟨start, consumed, whole, -⟩ := inPlace
      have present := (genXport_order _ ((List.mem_tails _ _).mpr ⟨consumed, whole⟩)).1 rfl
      have isLive : server.crypto.dhA = .live := by
        rw [live, place]
        exact present
      refine ⟨owner, ?_, follows, live⟩
      rw [place]
      exact Crypto.performAll_dereference follows.shown isLive
  | @genXport session locals statement rest crypto afterLocals place done =>
      simp only [CryptoInPlace, place] at inPlace
      obtain ⟨start, consumed, whole, -⟩ := inPlace
      simp only [place, HoldsKeyObject] at live
      have held : statement = .deleteDh2 → server.crypto.dhA = .live := by
        rintro rfl
        exact live.mpr List.mem_cons_self
      have gone : statement = .clearDh2 → server.crypto.dhA ≠ .live := by
        rintro rfl isLive
        have order := genXport_order _ ((List.mem_tails _ _).mpr ⟨consumed, whole⟩)
        exact order.2 rfl (live.mp isLive)
      obtain ⟨after, performed, nextFollows⟩ := follows.xport done held gone
      refine ⟨after, ?_, nextFollows, ?_⟩
      · rw [place]
        exact performed
      · change crypto.dhA = .live ↔ .deleteDh2 ∈ rest
        rw [Crypto.xport_effect_dhA done, deleteDh2_rest ⟨consumed, whole⟩, ← live]
        split_ifs with deletes clears
        · simp [deletes]
        · simp [gone clears]
        · simp [deletes]
  | callGenXport place =>
      simp only [place, HoldsKeyObject] at live
      refine ⟨owner, by rw [place]; rfl, follows, ?_⟩
      change server.crypto.dhA = .live ↔ .deleteDh2 ∈ Crypto.genXport
      rw [live]
      decide
  | returnXport place =>
      simp only [place, HoldsKeyObject] at live
      refine ⟨owner, by rw [place]; rfl, follows, ?_⟩
      simpa [HoldsKeyObject] using live
  | recvEpub place =>
      simp only [place, HoldsKeyObject] at live
      refine ⟨owner, by rw [place]; rfl, follows, ?_⟩
      change server.crypto.dhA = .live ↔ .newDh2 ∉ Crypto.initKeyExchangeParams
      rw [live]
      decide
  | spin place => exact ⟨owner, by rw [place]; rfl, follows, live⟩
  | recvIdentity place | refuse place | greet place | recvSpub place | sendIdentity place
  | sendSpub place | sendEpub place | sendXport place | recvDummy place | recvClientID place
  | seeClear place | push place | setFlag place =>
      simp only [place, HoldsKeyObject] at live
      exact ⟨owner, by rw [place]; rfl, follows, live⟩

theorem tended_step (lawful : config.lib.Lawful) {server next : Server Peer} {owner : Owner}
    {who : Step Peer} (tended : Tended server owner) (inPlace : CryptoInPlace config server)
    (taken : (system config).step server who = some next) :
    ∃ after, performAll (stepActions server who) owner = some after ∧ Tended next after := by
  obtain ⟨-, ⟨message, rfl, rfl⟩ | ⟨rfl, waits⟩ | ⟨rfl, processes⟩⟩ := step_cases taken
  · exact ⟨owner, rfl, tended.follows, tended.live_iff⟩
  · exact tended_waitMoves lawful tended inPlace waits
  · have leaves := processes.leavesReceive
    refine ⟨owner, rfl, ?_, ?_⟩
    · rw [leaves.crypto]
      exact tended.follows
    · rw [leaves.crypto, leaves.wait]
      exact tended.live_iff

/-! ### Whole runs -/

theorem tended_run (lawful : config.lib.Lawful) {server last : Server Peer} {owner : Owner}
    {steps : List (Step Peer)} (reached : (system config).Reachable server)
    (tended : Tended server owner) (ran : (system config).run server steps = some last) :
    ∃ after, performAll (runActions config server steps) owner = some after ∧
      Tended last after := by
  induction steps generalizing server owner with
  | nil =>
      obtain rfl : server = last := Option.some.inj ran
      exact ⟨owner, rfl, tended⟩
  | cons who rest inductionHypothesis =>
      obtain ⟨next, taken, tail⟩ := Option.bind_eq_some_iff.mp ran
      obtain ⟨middle, performed, nextTended⟩ :=
        tended_step lawful tended (cryptoInPlace_of_reachable reached) taken
      obtain ⟨after, rested, lastTended⟩ :=
        inductionHypothesis (reached.next taken) nextTended tail
      refine ⟨after, ?_, lastTended⟩
      unfold runActions
      rw [taken, performAll_append, performed]
      exact rested

/-- Whatever arrives and however the threads interleave, no statement of the
server uses or deletes a `DH2` object that is not there, and every object that it
has made is deleted exactly once, except the one of the exchange that is open. -/
theorem keyObject_of_run (lawful : config.lib.Lawful) {last : Server Peer}
    {steps : List (Step Peer)} (ran : (system config).run (boot .initial) steps = some last) :
    ∃ owner, performAll (runActions config (boot .initial) steps) declared = some owner ∧
      ∀ object < owner.allocated, owner.deleted.count object = 1 ∨
        owner.deleted.count object = 0 ∧ owner.pointer = .live object ∧
          HoldsKeyObject last.wait := by
  have start : Tended (boot .initial : Server Peer) declared := by
    refine ⟨⟨rfl, fun object lost => ?_⟩, ?_⟩
    · exact absurd lost.allocated (Nat.not_lt_zero _)
    · simp [boot, Crypto.initial, HoldsKeyObject]
  obtain ⟨owner, performed, tended⟩ := tended_run lawful (.start ⟨.initial, rfl⟩) start ran
  have accounted := declared_accounted.performAll performed
  refine ⟨owner, performed, fun object allocated => ?_⟩
  by_cases deleted : object ∈ owner.deleted
  · exact .inl (List.count_eq_one_of_mem accounted.once deleted)
  · right
    have held : owner.pointer = .live object := by
      by_contra notHeld
      exact tended.follows.noneLost object ⟨allocated, deleted, notHeld⟩
    refine ⟨List.count_eq_zero.mpr deleted, held, tended.live_iff.mp ?_⟩
    rw [tended.follows.shown, held]
    rfl

/-- The object of the exchange that a stranger's keys have ended. -/
theorem keyObject_of_run_huge_keys : ∃ owner,
    performAll (runActions testConfig (boot .initial) hugeKeysSteps) declared = some owner ∧
      ∀ object < owner.allocated, owner.deleted.count object = 1 ∨
        owner.deleted.count object = 0 ∧ owner.pointer = .live object := by
  obtain ⟨last, ran, -⟩ := hugeKeys_refused
  obtain ⟨owner, performed, kept⟩ := keyObject_of_run Reference.library_lawful ran
  refine ⟨owner, performed, fun object allocated => ?_⟩
  rcases kept object allocated with deleted | ⟨notDeleted, held, -⟩
  · exact .inl deleted
  · exact .inr ⟨notDeleted, held⟩

end Server

end LicensingServer
