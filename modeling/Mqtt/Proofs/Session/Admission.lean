/-
# Admission

When a session is admitted by its broker, told from what the environment answers.  A
handshake goes through these stages, and succeeds if it comes to their end:

| stage | what the environment has to do |
| --- | --- |
| dialing | the connector opens a connection |
| CONNECT | the frame is taken whole, and the flush too |
| head of the answer | reads supply two bytes in time: the kind of a CONNACK, and 2 |
| body of the answer | reads supply two bytes in time: the second is 0 |

The time of both reads is counted from when CONNECT was sent (`World.Admits`).  A read never
gives more than is missing, so what follows the CONNACK is left for later reads, also if it
comes in one piece with it: a handshake takes four bytes or, if it fails, fewer
(`Verdict`).  The main statement is `admission_step`.
-/
import Mqtt.Proofs.Session.Failure
import Mqtt.Proofs.Session.Publication

namespace Mqtt

open Mqtt.Action

/-- The bytes that the event takes from a connection. -/
def Event.bytes : Event → List UInt8
  | .read _ _ _ (.ok bytes) => bytes
  | _ => []

/-- The bytes taken from connections, in order. -/
def taken (events : List Event) : List UInt8 :=
  events.flatMap Event.bytes

/-- The bytes taken in two stretches of a history come one after the other. -/
@[simp] theorem taken_append (es fs : List Event) : taken (es ++ fs) = taken es ++ taken fs :=
  List.flatMap_append

/-- No code is lost in the reason of a refusal: those without a name are kept as they are. -/
theorem Refusal.code_ofCode (code : UInt8) : (Refusal.ofCode code).code = code := by
  unfold Refusal.ofCode
  split <;> rfl

/-- Opening a connection takes no bytes from it. -/
theorem Connector.Dialing.taken {host : String} {tcpPort : UInt16} {timeout : UInt32}
    {number : Nat} {connector : Connector} {r : Except NetFault Nat} {es : List Event}
    (h : Dialing host tcpPort timeout number connector r es) : taken es = [] := by
  cases h <;> rfl

namespace Environment

variable {ω : Type} [Environment ω]

/-- Sending a frame that is taken: how long it takes, and how the environment goes on. -/
def sent (frame : List UInt8) (environment : ω) : Answer ω Unit where
  value := ()
  took := (write frame environment).took + (flush (write frame environment).next).took
  next := (flush (write frame environment).next).next

/-- Reads supply the bytes that are missing.  Each one starts before the timeout has passed,
counted from `started`, asks for all that is missing, and gives some of it. -/
inductive Supplies (started timeout : UInt32) :
    Nat → UInt32 → ω → List UInt8 → UInt32 → ω → Prop
  /-- Nothing is missing. -/
  | done (clock : UInt32) (environment : ω) :
      Supplies started timeout 0 clock environment [] clock environment
  /-- There is time left, and the next read, which may take as long as that, gives some
  bytes. -/
  | chunk {missing : Nat} {clock clock' : UInt32} {environment environment' : ω}
      {bytes : List UInt8} (chunk : Chunk missing) : missing ≠ 0 →
      elapsed clock started < timeout →
      (read missing (timeout - elapsed clock started) environment).value = .ok chunk →
      chunk.val ≠ [] →
      Supplies started timeout (missing - chunk.val.length)
        (clock + (read missing (timeout - elapsed clock started) environment).took)
        (read missing (timeout - elapsed clock started) environment).next bytes clock'
        environment' →
      Supplies started timeout missing clock environment (chunk.val ++ bytes) clock' environment'

end Environment

namespace World

variable {ω : Type} [Environment ω]

/-- The broker of a connection that has just been opened admits the session. -/
def Admits (settings : Settings) (w : World ω) : Prop :=
  ∃ frame, (Outbound.connect settings.connect).pack Session.frameLimit = .ok frame ∧
    Environment.Takes frame w.environment ∧
    ∃ first size ack code clock environment clock' environment',
      let started := w.clock + (Environment.sent frame w.environment).took
      Environment.Supplies started settings.connectTimeout 2 started
        (Environment.sent frame w.environment).next [first, size] clock environment ∧
      Environment.Supplies started settings.connectTimeout 2 clock environment [ack, code]
        clock' environment' ∧
      first / 16 = 2 ∧ size = 2 ∧ code = 0

end World

/-- What the bytes that a handshake took say of how it went. -/
inductive Verdict {α : Type} (taken : List UInt8) : Except Fault α → Prop
  /-- All four bytes were taken, and they accept. -/
  | accepted {a : α} (first ack : UInt8) : taken = [first, 2, ack, 0] → first / 16 = 2 →
      Verdict taken (.ok a)
  /-- All four bytes were taken, and they refuse with a code that is not 0. -/
  | refused (first ack code : UInt8) : taken = [first, 2, ack, code] → first / 16 = 2 →
      code ≠ 0 → (Refusal.ofCode code).code = code →
      Verdict taken (.error (.connectionRefused (.ofCode code)))
  /-- It failed in another way, with no more taken than an answer is long. -/
  | failed {fault : Fault} : taken.length ≤ 4 →
      fault ∈ [.connectFailed, .writeError, .shortWrite, .readError, .timeout, .protocolError] →
      Verdict taken (.error fault)

/-- What is made of the value of a handshake does not change what its bytes say of how it
went. -/
theorem Verdict.map {α β : Type} {taken : List UInt8} {r : Except Fault α} (f : α → β)
    (h : Verdict taken r) : Verdict taken (r.map f) := by
  cases h with
  | accepted first ack hbytes hkind => exact .accepted first ack hbytes hkind
  | refused first ack code hbytes hkind hcode hsame =>
    exact .refused first ack code hbytes hkind hcode hsame
  | failed hfew hfault => exact .failed hfew hfault

namespace Session

variable {ω : Type}

/-! ### What is taken -/

/-- Reads take the bytes that they give. -/
theorem Hearing.taken {connection : Nat} {es : List Event} {bytes : List UInt8}
    (h : Hearing connection es bytes) : taken es = bytes := by
  induction h with
  | nil => rfl
  | read _ ih => exact congrArg (_ ++ ·) ih
  | failed _ _ ih => exact ih

/-- Sending takes no bytes. -/
theorem Sending.taken {connection : Nat} {frame : List UInt8} {r : Except Fault Unit}
    {es : List Event} (h : Sending connection frame r es) : taken es = [] := by
  cases h <;> rfl

/-- Closing a connection takes no bytes, not even those that are waiting to be read. -/
theorem Closing.taken {connection : Nat} {es : List Event} (h : Closing connection es) :
    taken es = [] := by
  cases h <;> rfl

/-- Sending fails as a write error or as a short write, and in no other way. -/
theorem Sending.fault {connection : Nat} {frame : List UInt8} {fault : Fault} {es : List Event}
    (h : Sending connection frame (.error fault) es) :
    fault = .writeError ∨ fault = .shortWrite := by
  cases h with
  | writeFailed => exact .inl rfl
  | short => exact .inr rfl
  | flushFailed => exact .inl rfl

/-! ### What an answer says -/

/-- Two bytes announce a CONNACK if the first is of that kind, with any flags, and the
second is 2. -/
theorem announcesConnAck_iff {head : List UInt8} :
    announcesConnAck head = true ↔ ∃ first, head = [first, 2] ∧ first / 16 = 2 := by
  have hkind : ∀ first, Kind.ofFirstByte? first = some .connAck ↔ first / 16 = 2 :=
    fun _ => Kind.ofFirstByte?_eq_some_iff
  unfold announcesConnAck
  split
  case h_1 first =>
    rw [decide_eq_true_iff, hkind]
    exact ⟨fun h => ⟨first, rfl, h⟩, fun ⟨_, heq, h⟩ => (List.cons.inj heq).1 ▸ h⟩
  case h_2 hother => exact iff_of_false nofun fun ⟨first, heq, _⟩ => hother first heq

/-- The four bytes of a CONNACK say whether the broker kept a session, if its code is 0,
and otherwise why it refuses. -/
theorem readConnAck_eq {first : UInt8} (kind : first / 16 = 2) (ack code : UInt8) :
    readConnAck [first, 2, ack, code] =
      if code = 0 then .ok (ack % 2 = 1) else .error (.connectionRefused (.ofCode code)) := by
  obtain ⟨_, _, _, hbytes, -, hdecode⟩ := decode_announced (rfl : [ack, code].length = 2)
    (announcesConnAck_iff.2 ⟨first, rfl, kind⟩)
  cases hbytes
  rw [readConnAck]
  change Inbound.decode [first, 2, ack, code] = _ at hdecode
  rw [hdecode]
  by_cases hcode : code = 0
  · rw [if_pos hcode, hcode]
    rfl
  · rw [if_neg hcode]
    split
    case h_1 heq => cases heq; exact absurd rfl hcode
    case h_2 heq => cases heq; rfl
    case h_3 hother heq => cases heq; exact (hother _ _ rfl).elim
    case h_4 heq => cases heq

variable [Environment ω]

/-! ### What the environment supplies -/

/-- Where something is missing, the first read decides. -/
theorem supplies_iff {started timeout clock clock' : UInt32} {missing : Nat} {e e' : ω}
    {bytes : List UInt8} (lacks : missing ≠ 0) :
    Environment.Supplies started timeout missing clock e bytes clock' e' ↔
      elapsed clock started < timeout ∧ ∃ chunk : Chunk missing,
        (Environment.read missing (timeout - elapsed clock started) e).value = .ok chunk ∧
          chunk.val ≠ [] ∧ ∃ rest, bytes = chunk.val ++ rest ∧
            Environment.Supplies started timeout (missing - chunk.val.length)
              (clock + (Environment.read missing (timeout - elapsed clock started) e).took)
              (Environment.read missing (timeout - elapsed clock started) e).next rest clock'
              e' := by
  constructor
  · rintro (_ | ⟨chunk, -, hearly, hanswer, hsome, hrest⟩)
    · exact absurd rfl lacks
    · exact ⟨hearly, chunk, hanswer, hsome, _, rfl, hrest⟩
  · rintro ⟨hearly, chunk, hanswer, hsome, rest, rfl, hrest⟩
    exact .chunk chunk lacks hearly hanswer hsome hrest

/-- **Bytes are filled exactly if the environment supplies them.** -/
theorem Filling.supplies_iff {connection missing : Nat} {started timeout clock : UInt32}
    {s t : Session ω} {r : Except Fault (List UInt8)} {es : List Event} {bytes : List UInt8} {e : ω}
    (h : Filling connection started timeout missing s r es t) :
    Environment.Supplies started timeout missing s.world.clock s.world.environment bytes clock e ↔
      r = .ok bytes ∧ clock = t.world.clock ∧ e = t.world.environment := by
  -- On the reads that were made; each is the read `Supplies` would make.
  induction h generalizing bytes with
  | done s =>
    constructor
    · rintro (_ | ⟨_, lacks, -⟩)
      · exact ⟨rfl, rfl, rfl⟩
      · exact absurd rfl lacks
    · rintro ⟨hbytes, rfl, rfl⟩
      cases hbytes
      exact .done _ _
  | late lacks hlate =>
    refine iff_of_false (fun h => ?_) nofun
    exact UInt32.not_lt.2 hlate ((Session.supplies_iff lacks).1 h).1
  | failed lacks _ hanswer =>
    refine iff_of_false (fun h => ?_) nofun
    obtain ⟨-, chunk, hchunk, -⟩ := (Session.supplies_iff lacks).1 h
    exact nomatch hanswer.symm.trans hchunk
  | ended lacks _ hanswer hnone =>
    refine iff_of_false (fun h => ?_) nofun
    obtain ⟨-, chunk, hchunk, hsome, -⟩ := (Session.supplies_iff lacks).1 h
    cases hanswer.symm.trans hchunk
    exact hsome hnone
  | @more missing s u t chunk r es lacks hearly hanswer hsome hdid _ hnext hclock _ ih =>
    rw [Session.supplies_iff lacks]
    constructor
    · rintro ⟨-, chunk', hchunk, -, rest, rfl, hrest⟩
      cases hanswer.symm.trans hchunk
      have hrest := ih.1 (hclock ▸ hnext ▸ hrest)
      exact ⟨by rw [hrest.1]; rfl, hrest.2⟩
    · rintro ⟨hr, rfl, rfl⟩
      cases r with
      | error => cases hr
      | ok rest =>
        cases hr
        have hrest := ih.2 ⟨rfl, rfl, rfl⟩
        rw [hclock, hnext] at hrest
        exact ⟨hearly, chunk, hanswer, hsome, rest, rfl, hrest⟩

/-- **Bytes that are read in time were supplied.**  Where reading succeeds, the
environment answered each read before the deadline with some of what was missing. -/
theorem supplied_of_fill {connection missing : Nat} {started timeout : UInt32} {s t : Session ω}
    {bytes : List UInt8} (h : Yields (fill connection started timeout missing) s (.ok bytes) t) :
    Environment.Supplies started timeout missing s.world.clock s.world.environment bytes
        t.world.clock t.world.environment ∧ bytes.length = missing := by
  obtain ⟨es, hes⟩ := filling_of_fill h
  obtain ⟨_, -, -, -, hall⟩ := hes.hearing
  obtain ⟨rfl, hlength⟩ := hall _ rfl
  exact ⟨hes.supplies_iff.2 ⟨rfl, rfl, rfl⟩, hlength⟩

/-- What the environment supplies is what is filled. -/
theorem filled_of_supplies {connection missing : Nat} {started timeout clock : UInt32}
    {s t : Session ω} {r : Except Fault (List UInt8)} {bytes : List UInt8} {e : ω}
    (h : Yields (fill connection started timeout missing) s r t)
    (supplies : Environment.Supplies started timeout missing s.world.clock s.world.environment
      bytes clock e) :
    r = .ok bytes ∧ clock = t.world.clock ∧ e = t.world.environment := by
  obtain ⟨es, hes⟩ := filling_of_fill h
  exact hes.supplies_iff.1 supplies

/-- Reading takes no more bytes than were wanted, and just those that it gives if it
succeeds; if it fails, the bytes read before are lost. -/
theorem taken_of_fill {connection missing : Nat} {started timeout : UInt32} {s t : Session ω}
    {r : Except Fault (List UInt8)} (h : Yields (fill connection started timeout missing) s r t) :
    ∃ es, s.Did es t ∧ (taken es).length ≤ missing ∧ ∀ bytes, r = .ok bytes → taken es = bytes := by
  obtain ⟨es, hes⟩ := filling_of_fill h
  obtain ⟨bytes, hbytes, hdid, hfew, hall⟩ := hes.hearing
  refine ⟨es, hdid, ?_, fun filled hfilled => ?_⟩
  · rw [hbytes.taken]
    exact hfew
  · rw [hbytes.taken, (hall filled hfilled).1]

/-- Where a frame that is sent leaves the world. -/
theorem sent_of_sendFrame {connection : Nat} {frame : List UInt8} {s t : Session ω}
    (h : Yields (sendFrame connection frame) s (.ok ()) t) :
    t.settings = s.settings ∧
      t.world.clock = s.world.clock + (Environment.sent frame s.world.environment).took ∧
        t.world.environment = (Environment.sent frame s.world.environment).next := by
  obtain ⟨_, -, hdid⟩ := sending_of_sendFrame h
  refine ⟨hdid.settings, ?_⟩
  rw [sendFrame] at h
  rcases yields_bind.1 h with ⟨_, -, he⟩ | ⟨taken, u, hw, h⟩
  · cases he
  rcases World.ran_orNotice (did_onWorld hw).1 with ⟨_, hwrite, -⟩ | ⟨_, _, -, -, he⟩
  · obtain ⟨-, hnext, hclock⟩ := World.answered_of_demand hwrite
    split at h
    case isTrue =>
      obtain ⟨v, -, h⟩ := yields_notice_bind h
      cases (yields_throw_bind.1 h).1
    case isFalse =>
      rcases World.ran_orNotice (did_onWorld h).1 with ⟨_, hflush, -⟩ | ⟨_, _, -, -, he⟩
      · obtain ⟨-, hlast, hlater⟩ := World.answered_of_demand hflush
        rw [hlater, hlast, hclock, hnext, UInt32.add_assoc]
        exact ⟨rfl, rfl⟩
      · cases he
  · cases he

/-! ### The exchange -/

/-- **The broker's answer is accepted exactly if it admits the session.**  One direction
goes along the exchange; the other takes the answer of the environment apart in the
order in which it is asked for. -/
theorem Greeting.admits {connection : Nat} {s t : Session ω} {r : Except Fault Bool}
    (h : Greeting connection s r t) : r.isOk = true ↔ s.world.Admits s.settings := by
  -- What the environment has to do, with the parts of the exchange that were gone through.
  have hsent : ∀ {frame : List UInt8} {x : Except Fault Unit} {u : Session ω},
      (Outbound.connect s.settings.connect).pack frameLimit = .ok frame →
      Yields (sendFrame connection frame) s x u → s.world.Admits s.settings → x = .ok () ∧
        ∃ first ack clock environment clock' environment',
          Environment.Supplies u.world.clock s.settings.connectTimeout 2 u.world.clock
            u.world.environment [first, 2] clock environment ∧
          Environment.Supplies u.world.clock s.settings.connectTimeout 2 clock environment
            [ack, 0] clock' environment' ∧ first / 16 = 2 := by
    rintro frame x u hpack hsend ⟨_, hsame, htakes, first, _, ack, _, clock, environment, clock',
      environment', hhead, hbody, hkind, rfl, rfl⟩
    cases hpack.symm.trans hsame
    obtain rfl := (taken_of_sendFrame hsend).2 htakes
    obtain ⟨-, hclock, hnext⟩ := sent_of_sendFrame hsend
    rw [hclock, hnext]
    exact ⟨rfl, first, ack, clock, environment, clock', environment', hhead, hbody, hkind⟩
  -- By how far the exchange came: up to the last case the environment fails to admit,
  -- since the part that failed is one it would have had to supply.
  cases h with
  | unpackable hbad =>
    refine iff_of_false nofun fun ⟨frame, hpack, _⟩ => ?_
    exact nomatch hbad.symm.trans hpack
  | unsent hpack hsend =>
    exact iff_of_false nofun fun hadmits => nomatch (hsent hpack hsend hadmits).1
  | headless hpack hsend hhead =>
    refine iff_of_false nofun fun hadmits => ?_
    obtain ⟨-, first, ack, _, _, _, _, hsupplies, -⟩ := hsent hpack hsend hadmits
    exact nomatch (filled_of_supplies hhead hsupplies).1
  | unexpected hpack hsend hhead hno =>
    refine iff_of_false nofun fun hadmits => ?_
    obtain ⟨-, first, ack, _, _, _, _, hsupplies, -, hkind⟩ := hsent hpack hsend hadmits
    cases (filled_of_supplies hhead hsupplies).1
    rw [announcesConnAck_iff.2 ⟨first, rfl, hkind⟩] at hno
    cases hno
  | bodiless hpack hsend hhead _ hbody =>
    refine iff_of_false nofun fun hadmits => ?_
    obtain ⟨-, first, ack, _, _, _, _, hsupplies, hmore, -⟩ := hsent hpack hsend hadmits
    obtain ⟨-, rfl, rfl⟩ := filled_of_supplies hhead hsupplies
    exact nomatch (filled_of_supplies hbody hmore).1
  | @answered frame head body u v _ hpack hsend hhead hyes hbody =>
    obtain ⟨first, rfl, hkind⟩ := announcesConnAck_iff.1 hyes
    obtain ⟨hsupplies, -⟩ := supplied_of_fill hhead
    obtain ⟨hmore, hlength⟩ := supplied_of_fill hbody
    match body, hlength with
    | [ack, code], _ =>
      change (readConnAck [first, 2, ack, code]).isOk = true ↔ _
      rw [readConnAck_eq hkind]
      -- All four bytes came, so the return code decides.
      by_cases hcode : code = 0
      · rw [if_pos hcode]
        obtain ⟨-, hclock, hnext⟩ := sent_of_sendFrame hsend
        rw [hclock, hnext] at hsupplies
        rw [hclock] at hmore
        exact iff_of_true rfl ⟨frame, hpack, (taken_of_sendFrame hsend).1 rfl, first, 2, ack, code,
          _, _, _, _, hsupplies, hmore, hkind, rfl, hcode⟩
      · rw [if_neg hcode]
        refine iff_of_false nofun fun hadmits => hcode ?_
        obtain ⟨-, _, _, _, _, _, _, hsupplies', hmore', -⟩ := hsent hpack hsend hadmits
        obtain ⟨-, rfl, rfl⟩ := filled_of_supplies hhead hsupplies'
        cases (filled_of_supplies hbody hmore').1
        rfl

/-- The bytes that are taken meanwhile say how it went. -/
theorem Greeting.verdict {connection : Nat} {s t : Session ω} {r : Except Fault Bool}
    (h : Greeting connection s r t) : ∃ es, s.Did es t ∧ Verdict (taken es) r := by
  have hfills : ∀ {taken : List UInt8} {u v : Session ω} {started timeout : UInt32} {fault : Fault},
      Yields (fill connection started timeout 2) u (.error fault) v → taken.length ≤ 4 →
        Verdict (α := Bool) taken (.error fault) := by
    intro taken u v started timeout fault hf hfew
    rcases fault_of_fill hf with rfl | rfl <;> exact .failed hfew (by decide)
  -- What was taken is known part by part, and two parts are at most four bytes.
  cases h with
  | unpackable hbad =>
    obtain ⟨frame, hpack⟩ := packs_connect s.settings
    exact nomatch hbad.symm.trans hpack
  | unsent _ hsend =>
    obtain ⟨es, hes, hdid⟩ := sending_of_sendFrame hsend
    refine ⟨es, hdid, ?_⟩
    rcases hes.fault with rfl | rfl <;> exact .failed (by simp [hes.taken]) (by decide)
  | headless _ hsend hhead =>
    obtain ⟨es, hes, hsent⟩ := sending_of_sendFrame hsend
    obtain ⟨fs, hdid, hfew, -⟩ := taken_of_fill hhead
    refine ⟨es ++ fs, hsent.trans hdid, hfills hhead ?_⟩
    rw [taken_append, hes.taken, List.nil_append]
    omega
  | unexpected _ hsend hhead _ htold =>
    obtain ⟨es, hes, hsent⟩ := sending_of_sendFrame hsend
    obtain ⟨fs, hdid, hfew, -⟩ := taken_of_fill hhead
    refine ⟨_, (hsent.trans hdid).trans htold, .failed ?_ (by decide)⟩
    rw [taken_append, taken_append, hes.taken, List.nil_append, List.length_append]
    exact Nat.le_trans hfew (by decide)
  | bodiless _ hsend hhead _ hbody =>
    obtain ⟨es, hes, hsent⟩ := sending_of_sendFrame hsend
    obtain ⟨fs, hdid, hfew, -⟩ := taken_of_fill hhead
    obtain ⟨gs, hlast, hmore, -⟩ := taken_of_fill hbody
    refine ⟨_, (hsent.trans hdid).trans hlast, hfills hbody ?_⟩
    rw [taken_append, taken_append, hes.taken, List.nil_append, List.length_append]
    omega
  | @answered _ _ body _ _ _ _ hsend hhead hyes hbody =>
    obtain ⟨first, rfl, hkind⟩ := announcesConnAck_iff.1 hyes
    obtain ⟨es, hes, hsent⟩ := sending_of_sendFrame hsend
    obtain ⟨fs, hdid, -, hfirst⟩ := taken_of_fill hhead
    obtain ⟨gs, hlast, -, hsecond⟩ := taken_of_fill hbody
    obtain ⟨-, hlength⟩ := supplied_of_fill hbody
    match body, hlength with
    | [ack, code], _ =>
      refine ⟨_, (hsent.trans hdid).trans hlast, ?_⟩
      have htaken : taken (es ++ fs ++ gs) = [first, 2, ack, code] := by
        rw [taken_append, taken_append, hes.taken, hfirst _ rfl, hsecond _ rfl]
        rfl
      change Verdict _ (readConnAck [first, 2, ack, code])
      rw [readConnAck_eq hkind]
      by_cases hcode : code = 0
      · rw [if_pos hcode]
        exact .accepted first ack (hcode ▸ htaken) hkind
      · rw [if_neg hcode]
        exact .refused first ack code htaken hkind hcode (Refusal.code_ofCode code)

/-! ### The handshake -/

section

omit [Environment ω]

/-- Giving up the link takes no bytes. -/
theorem Dropping.taken {s t : Session ω} {es : List Event} (h : Dropping s es t) :
    taken es = [] := by
  cases h with
  | nothing => rfl
  | closed _ hes => exact hes.taken

/-- Giving up the link changes nothing but that there is none, and opens no connection. -/
theorem Dropping.rest {s t : Session ω} {es : List Event} (h : Dropping s es t) :
    s.world.Ran es t.world ∧ t = { s with connection := none, world := t.world } ∧
      t.world.opened = s.world.opened := by
  cases h with
  | nothing hnone => exact ⟨.refl _, by rw [← hnone], rfl⟩
  | closed _ hes hdid =>
    refine ⟨hdid.ran, hdid.rest, ?_⟩
    rw [hdid.ran.opened]
    cases hes <;> rfl

/-- What opening a link changes of the session. -/
theorem Opening.rest {s t : Session ω} {r : Except Fault Unit} {es : List Event}
    (h : Opening s r es t) :
    (r = .ok () → t = { s with
        connection := some (s.world.opened + 1)
        link := s.link + 1
        keepAlive := s.keepAlive.reset t.world.clock
        world := t.world }) ∧
      ∀ fault, r = .error fault → t = { s with world := t.world } := by
  refine ⟨fun hr => ?_, fun fault hr => ?_⟩
  · subst hr
    have hup := h.connection
    have htimers := h.keepAlive.1
    cases h with
    | opened _ _ hdid =>
      rw [← htimers, ← hup, hdid.connection, hdid.keepAlive]
      exact hdid.rest
  · subst hr
    cases h with
    | refused _ hdid => exact hdid.rest
    | failed _ _ _ hdid => exact hdid.rest

end

/-- How a handshake goes: the link is given up, a connection is opened, and CONNECT and its
answer go over it. -/
theorem greeting_of_handshake {s t : Session ω} {r : Except Fault Unit}
    (h : Yields handshake s r t) :
    ∃ u x w, Yields dropLink s (.ok () : Except Fault Unit) u ∧
      Yields (u.connector.dial u.settings.host.text u.settings.tcpPort u.settings.connectTimeout)
        u.world x w ∧
      ((∃ fault, x = .error fault ∧ r = .error .connectFailed ∧
          Did { u with world := w }
            [.notice (.dialFailed u.settings.host.text u.settings.tcpPort fault)] t) ∨
        ∃ number y v, x = .ok number ∧ Greeting number { u with world := w } y v ∧
          r = y.map fun _ => ()) ∧
      ∃ es, s.world.Ran es t.world ∧ Verdict (taken es) r := by
  -- What is taken before the exchange is nothing, so what is taken in all is its answer.
  have dialed : ∀ {u : Session ω} {x : Except NetFault Nat} {w : World ω},
      Yields dropLink s (.ok () : Except Fault Unit) u →
      Yields (u.connector.dial u.settings.host.text u.settings.tcpPort u.settings.connectTimeout)
        u.world x w → ∃ es, s.world.Ran es w ∧ taken es = [] := by
    intro u x w hd hdial
    obtain ⟨ds, hds⟩ := (dropping_of_dropLink hd).2
    obtain ⟨es, hes, hran⟩ := Connector.dialing_of_dial hdial
    refine ⟨ds ++ es, hds.rest.1.trans hran, ?_⟩
    rw [taken_append, hds.taken, hes.taken]
    rfl
  cases handshaking_of_handshake h with
  | refused hd hdial hdid =>
    obtain ⟨es, hran, hes⟩ := dialed hd hdial
    refine ⟨_, _, _, hd, hdial, .inl ⟨_, rfl, rfl, hdid⟩, _, hran.trans hdid.ran, .failed ?_
      (by decide)⟩
    rw [taken_append, hes]
    exact Nat.zero_le _
  | @failed number fault gs _ _ _ _ hd hdial hx hgs hdid =>
    obtain ⟨es, hran, hes⟩ := dialed hd hdial
    obtain ⟨fs, hfs, hverdict⟩ := (greeting_of_exchange hx).verdict
    refine ⟨_, _, _, hd, hdial, .inr ⟨number, _, _, rfl, greeting_of_exchange hx, rfl⟩, _,
      (hran.trans hfs.ran).trans hdid.ran, ?_⟩
    have hall : taken (es ++ fs ++ .notice (.handshakeFailed fault) :: gs) = taken fs := by
      rw [taken_append, taken_append, hes, List.nil_append]
      exact (congrArg _ hgs.taken).trans (List.append_nil _)
    exact hall ▸ hverdict.map fun _ => ()
  | @opened number _ _ _ _ _ hd hdial hx hdid _ =>
    obtain ⟨es, hran, hes⟩ := dialed hd hdial
    obtain ⟨fs, hfs, hverdict⟩ := (greeting_of_exchange hx).verdict
    refine ⟨_, _, _, hd, hdial, .inr ⟨number, _, _, rfl, greeting_of_exchange hx, rfl⟩, _,
      (hran.trans hfs.ran).trans hdid.ran, ?_⟩
    rw [taken_append, taken_append, hes, List.nil_append]
    exact (List.append_nil (taken fs)).symm ▸ hverdict.map fun _ => ()

/-- What a handshake does, from the session before it on. -/
structure Admission (s : Session ω) (r : Except Fault Unit) (t : Session ω) : Prop where
  /-- It succeeds exactly if, once the link is given up, a connection is opened whose broker
  admits the session. -/
  admitted : r = .ok () ↔ ∃ number w,
    Yields (s.connector.dial s.settings.host.text s.settings.tcpPort s.settings.connectTimeout)
      (s.step .dropLink).world (.ok number) w ∧ w.Admits s.settings
  /-- The bytes that it took tell how it went. -/
  verdict : ∃ es, s.world.Ran es t.world ∧ Verdict (taken es) r
  /-- Then there is a new link over the new connection, whose timers start. -/
  up : r = .ok () → t = { s with
    connection := some (s.world.opened + 1)
    link := s.link + 1
    keepAlive := s.keepAlive.reset t.world.clock
    world := t.world }
  /-- Otherwise there is no link, and nothing else has changed. -/
  down : ∀ fault, r = .error fault → t = { s with connection := none, world := t.world }

/-- **A handshake does what `Admission` says.**  Here it is said of an action;
`admission_step` says it of a move. -/
theorem admission_of_handshake {s t : Session ω} {r : Except Fault Unit}
    (h : Yields handshake s r t) : Admission s r t := by
  obtain ⟨u, x, w, hdrop, hdial, hcases, hverdict⟩ := greeting_of_handshake h
  obtain ⟨es, d, fs, hds, -, hopen⟩ := opening_of_handshake h
  obtain ⟨-, hd, hopened⟩ := hds.rest
  obtain ⟨hup, hdown⟩ := hopen.rest
  have hu : s.step .dropLink = u := step_of_yields hdrop
  have hsame : u.connector = s.connector ∧ u.settings = s.settings := by
    obtain ⟨_, hus⟩ := (dropping_of_dropLink hdrop).2
    obtain ⟨-, hrest, -⟩ := hus.rest
    rw [hrest]
    exact ⟨rfl, rfl⟩
  rw [hsame.1, hsame.2] at hdial
  refine ⟨?_, hverdict, fun hr => ?_, fun fault hr => ?_⟩
  · rw [hu]
    -- Dialing gives one result, so the connection that the environment admits is the
    -- one that was opened.
    rcases hcases with ⟨fault, rfl, hr, -⟩ | ⟨number, y, v, rfl, hgreeting, hr⟩
    · rw [hr]
      refine iff_of_false nofun fun ⟨number, v, hother, _⟩ => ?_
      exact nomatch (hdial.unique hother).1
    · have hok : r = .ok () ↔ y.isOk = true := by
        rw [hr]
        cases y <;> simp [Except.map, Except.isOk, Except.toBool]
      have hadmits : y.isOk = true ↔ w.Admits s.settings := hsame.2 ▸ hgreeting.admits
      rw [hok, hadmits]
      constructor
      · exact fun hw => ⟨number, w, hdial, hw⟩
      · rintro ⟨_, w', hother, hw⟩
        obtain ⟨-, rfl⟩ := hdial.unique hother
        exact hw
  · have ht := hup hr
    rw [hopened, hd] at ht
    exact ht
  · have ht := hdown fault hr
    rw [hd] at ht
    exact ht

/-- **A session is admitted exactly if its broker answers so in time.** -/
theorem admission_step (s : Session ω) :
    Admission s (s.outcome .handshake) (s.step .handshake) :=
  admission_of_handshake (yields_outcome s .handshake)

end Session
end Mqtt
