import LicensingServer.Sessions.Visit

/-!
Owns the frames with which a client returns true: they need the keys of one
exchange and no license, so that any party can make them.

Does not own how a party other than the server gets to answer.
-/

set_option autoImplicit false

namespace LicensingServer

open LicensingServer.Foundations

namespace Visit

variable {Peer : Type} {lib : CryptoPP} {peer : Peer} {draw : KeyDraw lib} {id : Bytes}

/-! ### The frames of an acceptance -/

theorem isSuccessful_iff (text : Bytes) :
    Client.isSuccessful text = true ↔ text = successfulLoginReply := by
  unfold Client.isSuccessful
  by_cases same : text = successfulLoginReply
  · simp [same]
  · simp [same]

/-- The frames with which a call returns true. -/
theorem comesTo_true_iff (lawful : lib.Lawful) (frames : List Bytes) :
    comesTo draw frames = some (.ok true) ↔
      ∃ spub epub xport ack crypto, [spub, epub, xport, ack] <+: frames ∧
        unwrap draw spub epub xport = .ok crypto ∧
        Crypto.encrypt lib crypto successfulLoginReply = .ok ack := by
  have waits (done : Except Fault Crypto) : faultOf done ≠ some (.ok true) := by
    cases done with
    | error fault => intro same; cases same
    | ok crypto => intro same; cases same
  constructor
  · intro comes
    match frames with
    | [] | [_] | [_, _] | [_, _, _] => exact absurd comes (waits _)
    | spub :: epub :: xport :: ack :: more =>
        have returns : outcome draw spub epub xport ack = .ok true := Option.some.inj comes
        unfold outcome at returns
        cases unwraps : unwrap draw spub epub xport with
        | error fault => rw [unwraps] at returns; cases returns
        | ok crypto =>
            rw [unwraps] at returns
            cases done : Crypto.decrypt lib crypto ack with
            | error fault => simp only [Except.bind, Except.map, done] at returns; cases returns
            | ok text =>
                simp only [Except.bind, Except.map, done, Except.ok.injEq] at returns
                rw [(isSuccessful_iff text).mp returns] at done
                exact ⟨spub, epub, xport, ack, crypto, ⟨more, rfl⟩, unwraps,
                  (Crypto.decrypt_iff_encrypt lawful crypto ack _).mp done⟩
  · intro accepted
    rcases accepted with ⟨spub, epub, xport, ack, crypto, ⟨more, rfl⟩, unwraps, encrypted⟩
    have done := (Crypto.decrypt_iff_encrypt lawful crypto ack _).mpr encrypted
    change some (outcome draw spub epub xport ack) = _
    simp only [outcome, unwraps, Except.bind, done, Except.map,
      (isSuccessful_iff successfulLoginReply).mpr rfl]

/-! ### A party with keys of its own -/

/-- What a party makes of the two keys of a greeting that executes the server's
statements with keys of its own, and checks nothing. -/
def impersonate (own : KeyDraw lib) (spub epub : Bytes) : Except Fault (List Bytes) :=
  (agreeOn own spub epub).bind fun crypto =>
    (Crypto.encrypt lib crypto successfulLoginReply).map fun ack =>
      [Crypto.spubHexStr lib crypto, Crypto.epubHexStr lib crypto, Crypto.xportHexStr lib crypto,
        ack]

/-- Either side of an exchange behind `genXport`. -/
theorem agreeOn_blockHexStr (lawful : lib.Lawful) {own other : KeyDraw lib}
    (valid : own.groupValid = true) {shared : Bytes}
    (meets : lib.agree own.staticPrivate own.ephemeralPrivate
      other.staticPublic other.ephemeralPublic = some shared)
    (staticFull : ¬ Crypto.LeadsWithZero other.staticPublic)
    (ephemeralFull : ¬ Crypto.LeadsWithZero other.ephemeralPublic) :
    agreeOn own (Crypto.blockHexStr lib other.staticPublic)
        (Crypto.blockHexStr lib other.ephemeralPublic) =
      .ok ((Crypto.initial.withKeys own).withXport own shared) := by
  have live : (Crypto.initial.withKeys own).dhA = .live := rfl
  rw [agreeOn, Crypto.runInitKeyExchangeParams_eq, if_pos valid, Except.bind,
    Crypto.runGenXport_eq lawful own _ _ live,
    Crypto.agreed_blockHexStr lawful own other _ meets, if_neg]
  exact not_or.mpr ⟨staticFull, ephemeralFull⟩

/-- Encryption looks at nothing but the content key. -/
theorem encrypt_of_sameCek {crypto other : Crypto} (same : crypto.cek = other.cek)
    (text : Bytes) : Crypto.encrypt lib crypto text = Crypto.encrypt lib other text := by
  unfold Crypto.encrypt
  rw [same]

/-- What such a party answers, and what the client makes of it. -/
theorem impersonate_accepted (lawful : lib.Lawful) {own : KeyDraw lib}
    (clientGroup : draw.groupValid = true) (ownGroup : own.groupValid = true)
    (full : ∀ block ∈ Crypto.exchanged own draw, ¬ Crypto.LeadsWithZero block) :
    ∃ spub epub xport ack crypto,
      impersonate own (Crypto.blockHexStr lib draw.staticPublic)
        (Crypto.blockHexStr lib draw.ephemeralPublic) = .ok [spub, epub, xport, ack] ∧
      unwrap draw spub epub xport = .ok crypto ∧
      Crypto.encrypt lib crypto successfulLoginReply = .ok ack := by
  obtain ⟨shared, meetsOwn, meetsClient⟩ := lawful.agree_symmetric own.static_generated
    own.ephemeral_generated draw.static_generated draw.ephemeral_generated
  have sharedLength := lawful.agree_length meetsOwn
  simp only [Crypto.exchanged, Crypto.sentXport, meetsOwn, List.forall_mem_cons,
    List.not_mem_nil, false_imp_iff, implies_true, and_true] at full
  rcases full with ⟨ownStatic, ownEphemeral, clientStatic, clientEphemeral, xportFull⟩
  have ownAgrees := agreeOn_blockHexStr lawful ownGroup meetsOwn clientStatic clientEphemeral
  have clientAgrees := agreeOn_blockHexStr lawful clientGroup meetsClient ownStatic ownEphemeral
  obtain ⟨ack, encrypted, -⟩ := Crypto.decrypt_encrypt lawful
    (show ((Crypto.initial.withKeys own).withXport own shared).cek.length = defaultKeyLength from
      own.contentKey_length) (Eq.refl _) successfulLoginReply
  have unwraps := (Crypto.decryptXport_blockHexStr lawful own
    ((Crypto.initial.withKeys draw).withXport draw shared) sharedLength rfl).1 xportFull
  refine ⟨Crypto.blockHexStr lib own.staticPublic, Crypto.blockHexStr lib own.ephemeralPublic,
    Crypto.blockHexStr lib (Crypto.wrap lib shared own.contentKey), ack, _, ?_,
    by rw [unwrap, clientAgrees]; exact unwraps, ?_⟩
  · rw [impersonate, ownAgrees, Except.bind, encrypted]
    rfl
  · rw [← encrypted]
    exact encrypt_of_sameCek rfl _

/-- No block that the two reference parties exchange loses a byte. -/
theorem exchanged_full : ∀ block ∈ Crypto.exchanged Reference.drawA Reference.drawB,
    ¬ Crypto.LeadsWithZero block := by
  decide +kernel

/-! ### The client's verdict -/

/-- A client that makes no further step has returned true exactly when its fourth
frame is the text to which `ACK` is encrypted under the key that the first three
give. -/
theorem returned_true_iff (lawful : lib.Lawful) {visit : Visit Peer}
    (reachable : (system peer draw id).Reachable visit)
    (idle : (system peer draw id).step visit .client = none) :
    visit.client.thread = .returned true ↔
      ∃ spub epub xport ack crypto, [spub, epub, xport, ack] <+: visit.delivered ∧
        unwrap draw spub epub xport = .ok crypto ∧
        Crypto.encrypt lib crypto successfulLoginReply = .ok ack := by
  rw [returned_iff_comesTo reachable idle, comesTo_true_iff lawful]

/-- A client whose frames come from a party with the keys of `drawA`. -/
theorem returned_true_iff_sample : ∃ visit : Visit Unit,
    (system () Reference.drawB (ascii "TESTING_CLIENT")).Reachable visit ∧
      visit.client.thread = .returned true := by
  obtain ⟨spub, epub, xport, ack, crypto, -, unwraps, encrypted⟩ :=
    impersonate_accepted Reference.library_lawful rfl rfl exchanged_full
  obtain ⟨visit, delivered, same⟩ := exists_delivered () Reference.drawB
    (ascii "TESTING_CLIENT") [spub, epub, xport, ack]
  obtain ⟨last, reachable, kept, idle⟩ := exists_idle delivered
  refine ⟨last, reachable, (returned_true_iff Reference.library_lawful reachable idle).mpr ?_⟩
  refine ⟨spub, epub, xport, ack, crypto, ?_, unwraps, encrypted⟩
  rw [kept, same]

/-- A client returns true to whoever answers its greeting with the server's
statements, whatever keys the answer is made with, and has told it the client ID. -/
theorem impostor_accepted (lawful : lib.Lawful) {own : KeyDraw lib}
    (clientGroup : draw.groupValid = true) (ownGroup : own.groupValid = true)
    (full : ∀ block ∈ Crypto.exchanged own draw, ¬ Crypto.LeadsWithZero block) :
    ∃ frames, impersonate own (Crypto.blockHexStr lib draw.staticPublic)
        (Crypto.blockHexStr lib draw.ephemeralPublic) = .ok frames ∧
      ∀ visit, (system peer draw id).Reachable visit →
        (system peer draw id).step visit .client = none → frames <+: visit.delivered →
        visit.client.thread = .returned true ∧ visit.sent = messages peer draw id := by
  obtain ⟨spub, epub, xport, ack, crypto, answers, unwraps, encrypted⟩ :=
    impersonate_accepted lawful clientGroup ownGroup full
  refine ⟨_, answers, fun visit reachable idle front => ?_⟩
  have accepted : visit.client.thread = .returned true := by
    rw [returned_iff_comesTo reachable idle, comesTo_true_iff lawful]
    exact ⟨spub, epub, xport, ack, crypto, front, unwraps, encrypted⟩
  obtain ⟨frames, hasRead⟩ := hasRead_of_reachable reachable
  have inStep := hasRead.inStep
  rw [accepted] at inStep
  exact ⟨accepted, inStep⟩

theorem impostor_accepted_sample :
    ∃ frames, impersonate Reference.drawA
        (Crypto.blockHexStr Reference.library Reference.drawB.staticPublic)
        (Crypto.blockHexStr Reference.library Reference.drawB.ephemeralPublic) = .ok frames ∧
      ∃ visit : Visit Unit, visit.delivered = frames ∧
        visit.client.thread = .returned true ∧
        visit.sent = messages () Reference.drawB (ascii "TESTING_CLIENT") := by
  obtain ⟨frames, answers, accepts⟩ := @impostor_accepted Unit Reference.library ()
    Reference.drawB (ascii "TESTING_CLIENT") Reference.library_lawful Reference.drawA rfl rfl
    exchanged_full
  obtain ⟨visit, delivered, same⟩ := exists_delivered () Reference.drawB
    (ascii "TESTING_CLIENT") frames
  obtain ⟨last, reachable, kept, idle⟩ := exists_idle delivered
  refine ⟨frames, answers, last, kept.trans same, accepts last reachable idle ?_⟩
  rw [kept, same]

end Visit

end LicensingServer
