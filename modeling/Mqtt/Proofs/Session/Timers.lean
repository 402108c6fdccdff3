/-
# What the timers stand for

The keep-alive timers are fields of the session and outlive the link they were started
for.  For the link that a session has, they stand for what the history says of its
connection:

| timers | history |
| --- | --- |
| `heardAt` | when the link last came up, was restored, or answered a ping (`heard`) |
| `waiting`, `pingedAt` | when its last ping went out, unless it was answered (`unanswered`) |

A session of which that holds, and which did what its timers called for and nothing
else, is `Attentive`.  Most steps neither touch the timers nor do anything that counts
(`Doing.isQuiet`).  What remains are a link that opens (`Reconnecting.attentive`) and what
the timers call for (`KeepingAlive.attentive`); the answer to a ping is the worker's.
-/
import Mqtt.Proofs.Session.Acknowledgement
import Mqtt.Proofs.Session.Calls
import Mqtt.Proofs.Session.Signs

namespace Mqtt
namespace Session

variable {ω : Type}

/-- The timers of a session with a link stand for what they ought to, and what was done
about them was due. -/
structure Attentive (seconds : UInt16) (s : Session ω) : Prop where
  /-- The number of the last connection is the number of openings. -/
  opened : s.world.opened = openings s.world.events
  interval : s.keepAlive.interval = seconds.toUInt32 * 1000
  /-- One timer stands for when the link was last heard of. -/
  heardAt : ∀ c, s.connection = some c → heard c s.world.history = some s.keepAlive.heardAt
  /-- The other stands for the ping that is not answered yet, if there is one. -/
  pingedAt : ∀ c, s.connection = some c → unanswered c s.world.history =
    if s.keepAlive.waiting then some s.keepAlive.pingedAt else none
  /-- Each ping and each giving up was due. -/
  duly : Duly seconds s.world.history

namespace Attentive

variable {seconds : UInt16} {s t : Session ω} {es : List Event}

/-- The timers call for what the link does. -/
theorem due {c : Nat} (h : s.Attentive seconds) (up : s.connection = some c) :
    ∃ since, heard c s.world.history = some since ∧
      ∀ now, s.keepAlive.due now =
        callsFor seconds since (unanswered c s.world.history) now := by
  refine ⟨_, h.heardAt c up, fun now => ?_⟩
  unfold KeepAlive.due callsFor
  rw [h.pingedAt c up, h.interval, interval_half]
  by_cases hoff : seconds = 0
  · rw [if_pos hoff, if_pos (interval_eq_zero.2 hoff)]
  · rw [if_neg hoff, if_neg fun hzero => hoff (interval_eq_zero.1 hzero)]
    cases s.keepAlive.waiting <;> rfl

/-- A session without a link is attentive if all that was done was due. -/
theorem of_down (h : s.Attentive seconds) (ran : s.world.Ran es t.world)
    (timers : t.keepAlive = s.keepAlive) (down : t.connection = none)
    (duly : Duly seconds t.world.history) : t.Attentive seconds where
  opened := ran.counts h.opened
  interval := timers ▸ h.interval
  heardAt _ up := nomatch down.symm.trans up
  pingedAt _ up := nomatch down.symm.trans up
  duly := duly

/-- A session stays attentive where its timers are left alone and nothing is done that
counts for them. -/
theorem quiet (h : s.Attentive seconds) (ran : s.world.Ran es t.world)
    (signless : Without Event.isSign es) (timers : t.keepAlive = s.keepAlive)
    (link : t.connection = s.connection ∨ t.connection = none) : t.Attentive seconds := by
  obtain ⟨new, hnew, hes⟩ := ran.grown
  have hsigns := signless.stamped hes
  have hsame : ∀ c, t.connection = some c → s.connection = some c := by
    rintro c hc
    rcases link with hlink | hlink
    · exact hlink ▸ hc
    · exact nomatch hlink.symm.trans hc
  refine ⟨ran.counts h.opened, timers ▸ h.interval, fun c hc => ?_, fun c hc => ?_, ?_⟩
  · rw [hnew, heard_append hsigns, timers]
    exact h.heardAt c (hsame c hc)
  · rw [hnew, unanswered_append hsigns, timers]
    exact h.pingedAt c (hsame c hc)
  · rw [hnew]
    exact h.duly.append hsigns

end Attentive

/-! ### Steps that do nothing about the timers -/

/-- Moving frames of another kind than PINGREQ is no sign. -/
theorem signless_of_transfers {kind : Kind} {es : List Event} (h : Transfers kind es)
    (other : kind ≠ .pingReq) : Without Event.isSign es := by
  refine h.without fun e he => ?_
  cases e with
  | write c bytes result =>
    have hkind : kindOf? bytes = some kind := by simpa [Event.isTransfer] using he
    simp [Event.isSign, hkind, other]
  | notice n => cases n <;> first | rfl | cases he
  | _ => first | rfl | cases he

/-- The step leaves the timers alone and is no sign of life. -/
def Doing.isQuiet : Doing → Bool
  | raise | time | send .pingReq | tell (.notice .pingUnanswered)
  | tell (.notice (.restored _)) => false
  | tell (.frame _ bytes) => !isPingResp bytes
  | _ => true

/-- The calls of a client that does not run are quiet. -/
theorem Doing.isQuiet_of_isCall {d : Doing} (h : d.isCall false = true) : d.isQuiet = true := by
  cases d with
  | tell event =>
    cases event with
    | notice n => cases n <;> first | rfl | cases h
    | _ => first | rfl | cases h
  | send packet => cases packet <;> first | rfl | cases h
  | _ => first | rfl | cases h

/-- A quiet step writes no sign of life into the history: neither a ping nor an answer to
one, and no link that comes up. -/
theorem Step.signless {d : Doing} {s t : Session ω} {es : List Event} (quiet : d.isQuiet = true)
    (h : Step d s es t) : Without Event.isSign es := by
  have other : ∀ {packet : Outbound}, (Doing.send packet).isQuiet = true →
      packet.kind ≠ .pingReq := by
    intro packet hsend
    cases packet <;> first | exact Kind.noConfusion | cases hsend
  cases h with
  | tuned => exact .nil
  | kept => exact .singleton rfl
  | timed => exact .nil
  | @told event _ _ hquiet =>
    refine .singleton ?_
    cases event with
    | notice n => cases n <;> first | rfl | (cases quiet; done) | cases hquiet
    | frame c bytes =>
      have hother : isPingResp bytes = false := by simpa [Doing.isQuiet] using quiet
      exact hother
    | _ => first | rfl | cases hquiet
  | heard => exact .singleton rfl
  | sent _ hpack _ hes => exact signless_of_transfers (hes.transfers hpack) (other quiet)
  | broken _ hpack _ hes hns hfs =>
    exact signless_of_transfers (hes.transfers_closing hpack hns hfs) (other quiet)
  | left hpack _ hes hfs =>
    exact signless_of_transfers ((hes.transfers hpack).append (hfs.transfers _)) nofun
  | dropped _ hes => exact signless_of_transfers (hes.transfers .disconnect) nofun
  | raised => cases quiet

/-- A quiet step leaves the timers alone, and the link stays as it is or goes. -/
theorem Step.untimed {d : Doing} {s t : Session ω} {es : List Event} (quiet : d.isQuiet = true)
    (h : Step d s es t) : t.keepAlive = s.keepAlive ∧
      (t.connection = s.connection ∨ t.connection = none) := by
  cases h with
  | tuned _ hdid => exact ⟨hdid.keepAlive, .inl hdid.connection⟩
  | kept _ hdid => exact ⟨hdid.keepAlive, .inl hdid.connection⟩
  | timed => cases quiet
  | told _ hdid => exact ⟨hdid.keepAlive, .inl hdid.connection⟩
  | heard _ hdid => exact ⟨hdid.keepAlive, .inl hdid.connection⟩
  | sent _ _ _ _ hdid => exact ⟨hdid.keepAlive, .inl hdid.connection⟩
  | broken _ _ _ _ _ _ hdid => exact ⟨hdid.keepAlive, .inr hdid.connection⟩
  | left _ _ _ _ hdid => exact ⟨hdid.keepAlive, .inr hdid.connection⟩
  | dropped _ _ hdid => exact ⟨hdid.keepAlive, .inr hdid.connection⟩
  | raised => cases quiet

/-- No ping is out over the link, unless it is over this connection. -/
def Rests (d : Nat) (s : Session ω) : Prop :=
  ∀ c, s.connection = some c → c ≠ d → s.keepAlive.waiting = false

/-- **Quiet steps keep a session attentive.**  They give no sign of life, and what they
leave of the link has the timers it had. -/
theorem Path.attentive {seconds : UInt16} {s t : Session ω} {es : List Event}
    (h : Path (Doing.isQuiet ·) s es t) (hs : s.Attentive seconds) : t.Attentive seconds :=
  h.preserves (fun quiet hs step =>
    have ⟨timers, link⟩ := step.untimed quiet
    hs.quiet step.ran (step.signless quiet) timers link) hs

/-- Quiet steps send no ping, so none is out after them that was not before. -/
theorem Path.rests {d : Nat} {s t : Session ω} {es : List Event}
    (h : Path (Doing.isQuiet ·) s es t) (hs : s.Rests d) : t.Rests d := by
  refine h.preserves (fun quiet hs step c hc hother => ?_) hs
  obtain ⟨timers, hsame | hdown⟩ := step.untimed quiet
  · rw [timers]
    exact hs c (hsame ▸ hc) hother
  · exact nomatch hdown.symm.trans hc

/-- Quiet steps neither send nor answer a ping, so the one that is out over a connection,
if any, is the same after them. -/
theorem Path.unanswered {c : Nat} {s t : Session ω} {es : List Event}
    (h : Path (Doing.isQuiet ·) s es t) :
    unanswered c t.world.history = unanswered c s.world.history := by
  induction h with
  | refl => rfl
  | snoc _ quiet step ih =>
    obtain ⟨new, hnew, hes⟩ := step.ran.grown
    rw [hnew, unanswered_append ((step.signless quiet).stamped hes), ih]

/-- The calls of a client that does not run are quiet, step for step. -/
theorem Path.quiet {s t : Session ω} {es : List Event} (h : Path (Doing.isCall false ·) s es t) :
    Path (Doing.isQuiet ·) s es t :=
  h.mono fun _ => Doing.isQuiet_of_isCall

/-- Telling of something that is no sign of life is quiet. -/
theorem Did.quiet {event : Event} {s t : Session ω} (told : event.isTold = true)
    (quiet : (Doing.tell event).isQuiet = true) (h : s.Did [event] t) :
    Path (Doing.isQuiet ·) s [event] t :=
  .single quiet (.told told h)

/-- Reading is quiet; what it gave counts once a frame of it is acted on. -/
theorem Receiving.quiet {capacity : Nat} {timeout : UInt32} {r : Except Fault (Chunk capacity)}
    {s t : Session ω} {es : List Event} (h : Receiving capacity timeout s r es t) :
    Path (Doing.isQuiet ·) s es t := by
  cases h with
  | notConnected => exact .refl _
  | received chunk up hdid => exact .single rfl (.heard up hdid)
  | failed fault up hdid =>
    obtain ⟨u, hread, hnotice⟩ := hdid.split
    exact .cons (by exact rfl) (.heard up hread) (hnotice.quiet rfl rfl)

/-! ### What the timers call for -/

/-- A ping goes out over the connection when it is due, and the link stays or goes. -/
structure Pinging (c : Nat) (s t : Session ω) : Prop where
  /-- The ping is written at this moment, whether it is taken or not. -/
  out : ∃ result later, (∀ e ∈ later, e.event.isSign = false) ∧ t.world.history =
    later ++ ⟨s.world.clock, .write c [0xC0, 0x00] result⟩ :: s.world.history
  /-- Then the wait for its answer begins, or the link is dropped. -/
  link : t.connection = none ∧ t.keepAlive = s.keepAlive ∨
    t.connection = s.connection ∧ t.keepAlive = s.keepAlive.pinged s.world.clock

/-- The two bytes of a PINGREQ count as a ping over the connection they are written to,
however the write goes. -/
theorem isPing_pingReq (c : Nat) (result : Except NetFault Nat) :
    (Event.write c [0xC0, 0x00] result).isPing c = true := by
  have hpack : Outbound.pingReq.pack frameLimit = .ok [0xC0, 0x00] :=
    Outbound.pack_pingReq (by decide)
  simp [Event.isPing, kindOf?_of_pack hpack, Outbound.kind]

/-- **When a ping is due, it goes out.**  Where it cannot be sent whole the link is
closed, and otherwise the timers note when it was sent. -/
theorem KeepingAlive.pinging {s t : Session ω} {r : Except Fault Unit} {es : List Event} {c : Nat}
    (up : s.connection = some c) (due : s.keepAlive.due s.world.clock = some .ping)
    (h : KeepingAlive s.world.clock s r es t) : Pinging c s t := by
  have hframe : Outbound.pingReq.pack frameLimit = .ok [0xC0, 0x00] :=
    Outbound.pack_pingReq (by decide)
  -- The write comes first, and what follows it is no sign.
  have began : ∀ {frame : List UInt8} {connection : Nat} {r : Except Fault Unit}
      {es fs : List Event}, Outbound.pingReq.pack frameLimit = .ok frame →
        s.connection = some connection → Sending connection frame r es →
          Without Event.isSign fs → s.world.Begins t.world → s.world.Ran (es ++ fs) t.world →
            ∃ result later, (∀ e ∈ later, e.event.isSign = false) ∧ t.world.history =
              later ++ ⟨s.world.clock, .write c [0xC0, 0x00] result⟩ :: s.world.history := by
    intro frame connection r es fs hpack hup hes hfs hbegins hran
    cases hframe.symm.trans hpack
    cases up.symm.trans hup
    obtain ⟨result, rest, rfl, hrest⟩ := hes.eq_cons
    obtain ⟨later, hlater, hevents⟩ := hbegins.first hran
    have hsignless := (signless_of_transfers (hrest .disconnect) nofun).append hfs
    exact ⟨result, later, hsignless.stamped hevents, hlater⟩
  -- Of the ways that are left, in one the ping goes out whole and in one it does not.
  cases h with
  | nothing hnone => exact nomatch due.symm.trans hnone
  | dead hdead => exact nomatch due.symm.trans hdead
  | pinged _ hsent hdid =>
    cases hsent with
    | sent hpack hup hes hwrote hbegins =>
      refine ⟨began hpack hup hes (.singleton rfl) (hbegins.ran hdid.ran)
        (hwrote.ran.trans hdid.ran), .inr ⟨hdid.connection.trans hwrote.connection, ?_⟩⟩
      rw [hdid.keepAlive, hwrote.keepAlive]
  | unsent _ hsent =>
    cases hsent with
    | unpackable hbad => exact nomatch hframe.symm.trans hbad
    | notConnected hdown => exact nomatch up.symm.trans hdown
    | failed hpack hup hes hfs hdid hbegins =>
      exact ⟨began hpack hup hes (signless_of_transfers (hfs.transfers .disconnect) nofun) hbegins
        hdid.ran, .inl ⟨hdid.connection, hdid.keepAlive⟩⟩

/-- A ping that has just gone out is not answered yet. -/
theorem Pinging.unanswered {s t : Session ω} {c : Nat} (h : Pinging c s t) :
    unanswered c t.world.history = some s.world.clock := by
  obtain ⟨result, later, hsigns, hlater⟩ := h.out
  rw [hlater, unanswered_append hsigns]
  simp [Mqtt.unanswered, isPing_pingReq]

/-- A session stays attentive when a ping that was due goes out: either the timers stand
for it, or the link they stand for is gone. -/
theorem Attentive.ping {seconds : UInt16} {s t : Session ω} {c : Nat} {es : List Event}
    (hs : s.Attentive seconds) (up : s.connection = some c)
    (due : s.keepAlive.due s.world.clock = some .ping) (ran : s.world.Ran es t.world)
    (h : Pinging c s t) : t.Attentive seconds := by
  obtain ⟨since, hheard, hdue⟩ := hs.due up
  obtain ⟨hon, hrests, hlong⟩ := callsFor_eq_ping ((hdue _).symm.trans due)
  obtain ⟨result, later, hsigns, hlater⟩ := h.out
  have hduly : Duly seconds t.world.history := by
    rw [hlater]
    exact (hs.duly.ping hon hrests ⟨since, hheard, hlong⟩).append hsigns
  rcases h.link with ⟨hdown, htimers⟩ | ⟨hsame, htimers⟩
  · exact hs.of_down ran htimers hdown hduly
  · refine ⟨ran.counts hs.opened, htimers ▸ hs.interval, fun d hd => ?_, fun d hd => ?_, hduly⟩
    · rw [hlater, heard_append hsigns, htimers]
      exact hs.heardAt d (hsame ▸ hd)
    · cases up.symm.trans (hsame.symm.trans hd)
      rw [h.unanswered, htimers]
      rfl

/-- A ping that was not answered in time ends the link. -/
theorem Attentive.giveUp {seconds : UInt16} {s t u : Session ω} {c : Nat} {es : List Event}
    (hs : s.Attentive seconds) (up : s.connection = some c)
    (due : s.keepAlive.due s.world.clock = some .linkDead)
    (told : s.Did [.notice .pingUnanswered] t) (begins : s.world.Begins t.world)
    (closing : Closing c es) (closed : Did { t with connection := none } es u) :
    u.Attentive seconds := by
  obtain ⟨since, -, hdue⟩ := hs.due up
  obtain ⟨hon, pinged, hout, hlate⟩ := callsFor_eq_linkDead ((hdue _).symm.trans due)
  obtain ⟨between, hbetween, hnone⟩ := begins.first told.ran
  obtain rfl : between = [] := by simpa using hnone
  obtain ⟨rest, rfl, hrest⟩ := closing.eq_cons
  obtain ⟨time, later, hlater, hes⟩ := closed.ran.first
  have hsigns := (signless_of_transfers (hrest .disconnect) nofun).stamped hes
  refine hs.of_down (told.ran.trans closed.ran) (closed.keepAlive.trans told.keepAlive)
    closed.connection ?_
  rw [hlater, hbetween]
  exact (hs.duly.close hon hout hlate).append hsigns

/-- **A session stays attentive through whatever its timers call for**: nothing, a ping,
or giving up a link that owes an answer. -/
theorem KeepingAlive.attentive {seconds : UInt16} {s t : Session ω} {r : Except Fault Unit}
    {es : List Event} (hs : s.Attentive seconds) (up : s.connection.isSome)
    (h : KeepingAlive s.world.clock s r es t) : t.Attentive seconds := by
  obtain ⟨c, hup⟩ := Option.isSome_iff_exists.1 up
  have pinged : s.keepAlive.due s.world.clock = some .ping → t.Attentive seconds := fun hdue =>
    hs.ping hup hdue h.path.ran (h.pinging hup hdue)
  cases h with
  | nothing => exact hs
  | pinged hdue => exact pinged hdue
  | unsent hdue => exact pinged hdue
  | dead hdue hdid hdrop hbegins =>
    have hsame := hdid.connection.trans hup
    cases hdrop with
    | nothing hdown => exact nomatch hsame.symm.trans hdown
    | closed hsome hes hclosed =>
      cases hsame.symm.trans hsome
      exact hs.giveUp hup hdue hdid hbegins hes hclosed

/-- A link whose answer is overdue is gone. -/
theorem KeepingAlive.down {s t : Session ω} {r : Except Fault Unit} {es : List Event}
    (due : s.keepAlive.due s.world.clock = some .linkDead)
    (h : KeepingAlive s.world.clock s r es t) : r = .error .timeout ∧ t.connection = none := by
  cases h with
  | nothing hnone => exact nomatch due.symm.trans hnone
  | pinged hping => exact nomatch due.symm.trans hping
  | unsent hping => exact nomatch due.symm.trans hping
  | dead _ _ hdrop => exact ⟨rfl, hdrop.down⟩

/-! ### Links that open -/

variable {seconds : UInt16} {s t : Session ω} {es : List Event}

/-- Right after the link comes up or is restored, its timers are those of a link that was
heard just now. -/
theorem Attentive.restart {n : Notice} {now : UInt32} {fs : List Event} {c : Nat}
    (hs : s.Attentive seconds) (ran : s.world.Ran (fs ++ [.notice n]) t.world)
    (up : t.connection = some c) (latest : c = t.world.opened)
    (timers : t.keepAlive = s.keepAlive.reset now) (stands : t.world.StandsAt now)
    (starts : n.starts = true)
    (transfers : ∃ kind, kind ≠ .pingReq ∧ Transfers kind fs)
    (rests : unanswered c s.world.history = none) : t.Attentive seconds := by
  obtain ⟨kind, hkind, hfs⟩ := transfers
  obtain ⟨time, new, hnew, hes⟩ := ran.last
  have htime : time = now := by simpa [hnew] using stands.last
  have hsigns := (signless_of_transfers hfs hkind).stamped hes
  have hopened := ran.counts hs.opened
  -- The notice revives the connection that was opened last, which is this one.
  have hcount : openings (eventsOf (new ++ s.world.history)) = c := by
    have hall : openings t.world.events = openings (eventsOf (new ++ s.world.history)) := by
      rw [World.events_eq, hnew, eventsOf_cons, openings_append]
      rfl
    rw [← hall, ← hopened, latest]
  have hrests : unanswered c (new ++ s.world.history) = none := by
    rw [unanswered_append hsigns, rests]
  refine ⟨hopened, timers ▸ hs.interval, fun d hd => ?_, fun d hd => ?_, ?_⟩
  · cases up.symm.trans hd
    rw [hnew, timers, htime]
    simp [heard, Event.revives, starts, hcount, KeepAlive.reset]
  · cases up.symm.trans hd
    rw [hnew, timers]
    simp [unanswered, Event.isPing, Event.isPong, hrests, KeepAlive.reset]
  · rw [hnew]
    refine (hs.duly.append hsigns).cons ?_ ?_ fun _ => hcount ▸ hrests
    · rintro ⟨⟩
      cases starts
    · simp

/-- A session stays attentive when a link is opened, or is not: the timers of a new link
start when the history tells that it came up. -/
theorem Opening.attentive {r : Except Fault Unit} (hs : s.Attentive seconds) (tidy : s.Tidy)
    (down : s.connection = none) (h : Opening s r es t) : t.Attentive seconds := by
  match r with
  | .error fault =>
    have hsignless : Without Event.isSign es := signless_of_transfers h.transfers nofun
    cases h with
    | refused _ hdid => exact hs.quiet hdid.ran hsignless hdid.keepAlive (.inl hdid.connection)
    | failed _ _ _ hdid => exact hs.quiet hdid.ran hsignless hdid.keepAlive (.inl hdid.connection)
  | .ok () =>
    have hup := h.connection
    have hran := h.ran
    obtain ⟨timers, stands⟩ := h.keepAlive
    have hlatest := ((h.tidy tidy down).latest _ hup).1
    obtain ⟨fs, _, _, _, _, rfl, hfs⟩ := h.eq_append
    exact hs.restart hran hup hlatest timers stands rfl ⟨.connect, nofun, hfs⟩
      (unanswered_of_unused (tidy.unopened _ (Nat.lt_succ_self _)))

/-- A link that comes up has its timers started, and started again once it is restored; that
changes nothing if there was nothing to restore. -/
theorem Reconnecting.attentive {r : Except Fault Unit} (hs : s.Attentive seconds) (tidy : s.Tidy)
    (h : Reconnecting s r es t) : t.Attentive seconds := by
  have dropped : ∀ {u : Session ω} {es : List Event}, Dropping s es u →
      u.Attentive seconds ∧ u.Tidy := fun hdrop =>
    have hpath : Path (Doing.isCall false ·) s _ _ := hdrop.path
    ⟨hpath.quiet.attentive hs, hpath.tidy tidy⟩
  have hlatest := (h.path.tidy tidy).latest
  cases h with
  | unopened hdrop hnone hopen =>
    obtain ⟨hu, htidy⟩ := dropped hdrop
    exact hopen.attentive hu htidy hnone
  | abandoned hdrop hnone hopen up hgs hhs hdid =>
    obtain ⟨hu, htidy⟩ := dropped hdrop
    have hv := hopen.attentive hu htidy hnone
    exact hv.quiet hdid.ran (signless_of_transfers
      (hgs.transfers.append (.cons rfl (hhs.transfers _))) nofun) hdid.keepAlive
      (.inr hdid.connection)
  | @restored _ _ _ _ _ _ _ _ v _ hdrop hnone hopen up hgs hhs hdid hstands =>
    obtain ⟨hu, htidy⟩ := dropped hdrop
    have hv := hopen.attentive hu htidy hnone
    obtain ⟨htimers, hvstands⟩ := hopen.keepAlive
    -- Without subscriptions nothing is told of the restored link, and no time has
    -- passed since it came up: its timers are started twice at the same moment.
    by_cases hsize : v.registry.size = 0
    · rw [if_pos hsize] at hhs
      rw [List.length_eq_zero_iff.1 hsize] at hgs
      cases hgs with
      | done =>
        subst hhs
        obtain ⟨new, hnew, hnil⟩ := hdid.ran.grown
        obtain rfl : new = [] := by simpa using hnil
        have hlast := hstands.last
        rw [hnew, List.nil_append] at hlast
        have hnow := Option.some.inj (hlast.symm.trans hvstands.last)
        refine hv.quiet hdid.ran .nil ?_ (.inl hdid.connection)
        rw [hdid.keepAlive, htimers, hnow]
        rfl
    · rw [if_neg hsize] at hhs
      subst hhs
      have hup := hdid.connection.trans up
      have hrests := hv.pingedAt _ up
      rw [htimers] at hrests
      exact hv.restart hdid.ran hup (hlatest _ hup).1 hdid.keepAlive hstands rfl
        ⟨.subscribe, nofun, hgs.transfers⟩ hrests

/-- Over a link that has just come up, no ping is out. -/
theorem Reconnecting.rests {r : Except Fault Unit} (h : Reconnecting s r es t) (d : Nat) :
    t.Rests d := by
  intro c hup _
  match r with
  | .error fault => exact nomatch h.down.symm.trans hup
  | .ok () =>
    cases h with
    | restored _ _ _ _ _ _ hdid =>
      rw [hdid.keepAlive]
      rfl

/-- The session is tidy and attentive, and no ping is out over its link, unless it is over
this connection. -/
structure Mindful (seconds : UInt16) (d : Nat) (s : Session ω) : Prop where
  tidy : s.Tidy
  attentive : s.Attentive seconds
  rests : s.Rests d

variable {d : Nat}

/-- Quiet steps keep a session mindful. -/
theorem Path.mindful (hs : s.Mindful seconds d) (h : Path (Doing.isQuiet ·) s es t) :
    t.Mindful seconds d :=
  ⟨h.tidy hs.tidy, h.attentive hs.attentive, h.rests hs.rests⟩

/-- Connecting anew keeps a session mindful: a link that comes up has no ping out over it. -/
theorem Reconnecting.mindful {r : Except Fault Unit} (hs : s.Mindful seconds d)
    (h : Reconnecting s r es t) : t.Mindful seconds d :=
  ⟨h.path.tidy hs.tidy, h.attentive hs.attentive hs.tidy, h.rests d⟩

/-- Connecting, or finding the session connected, keeps it mindful. -/
theorem Ensuring.mindful {r : Except Fault Unit} (hs : s.Mindful seconds d)
    (h : Ensuring s r es t) : t.Mindful seconds d := by
  cases h with
  | linked => exact hs
  | reconnected _ hreconnect => exact hreconnect.mindful hs

/-- **Whoever makes a call, the session stays mindful.**  A call that brings up a link
starts its timers, with no ping out. -/
theorem Calling.mindful {running : Bool} {call : Call} {reply : Reply}
    (hs : s.Mindful seconds d) (h : Calling running s call reply es t) :
    t.Mindful seconds d := by
  cases h with
  | connected _ hensure => exact hensure.mindful hs
  | notRunning => exact hs
  | published _ hpublish => exact hpublish.path.quiet.mindful hs
  | unpublished => exact hs
  | subscribed _ hsubscribe => exact hsubscribe.path.quiet.mindful hs
  | unsubscribed => exact hs
  | shown => exact hs

end Session
end Mqtt
