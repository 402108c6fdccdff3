/-
# Moves of a session as runs of steps

Every move of a session that is driven on its own goes by the same few steps as those
of a client's session (`path_step`), so what a step keeps, a run of moves keeps
(`run_preserves`).  Only opening a link gives it a new number, and a move opens one
at most, by the handshake it begins with: the number grows in exactly those moves
whose handshake succeeds (`link_step`), whatever becomes of the subscriptions after it.
-/
import Mqtt.Session.Run
import Mqtt.Proofs.Session.Path

namespace Mqtt
namespace Session

open Mqtt.Action

variable {ω : Type}

/-! ### Steps that open no link -/

/-- What is not allowed to open a link opens none. -/
theorem Path.unraised {s t : Session ω} {es : List Event} (h : Path (Doing.isWork false ·) s es t) :
    Path (· ≠ .raise) s es t := by
  refine h.mono fun d work hraise => ?_
  rw [hraise] at work
  cases work

/-- The calls of a client that does not run open no link. -/
theorem Path.unraised_of_isCall {s t : Session ω} {es : List Event}
    (h : Path (Doing.isCall false ·) s es t) : Path (· ≠ .raise) s es t :=
  (h.mono fun _ => Doing.isWork_of_isCall : Path (Doing.isWork false ·) s es t).unraised

/-- Sending a packet opens no link, also where sending fails: the link is closed and stays
down. -/
theorem Transmitting.unraised {packet : Outbound} {r : Except Fault Unit} {s t : Session ω}
    {es : List Event} (traffic : packet.isTraffic = true) (h : Transmitting packet s r es t) :
    Path (· ≠ .raise) s es t :=
  (h.path traffic).mono fun d (hd : d = .send packet) => by simp [hd]

/-- Servicing the keep-alive opens no link, also where it gives up the one there was. -/
theorem KeepingAlive.unraised {time : UInt32} {r : Except Fault Unit} {s t : Session ω}
    {es : List Event} (h : KeepingAlive time s r es t) : Path (· ≠ .raise) s es t := by
  cases h with
  | nothing => exact .refl _
  | pinged _ hsent hdid =>
    have htold : Path (Doing.isCall false ·) _ _ t := hdid.told rfl rfl
    exact (hsent.unraised rfl).trans (.cons (by simp) (.timed _ (.refl _)) htold.unraised_of_isCall)
  | unsent _ hsent => exact hsent.unraised rfl
  | dead _ hdid hdrop =>
    have hpath : Path (Doing.isCall false ·) _ _ t := hdrop.path
    exact .cons (by simp) (.told rfl hdid) hpath.unraised_of_isCall

/-- Giving up the link leaves its number: numbers count links that came up. -/
theorem Dropping.link {s t : Session ω} {es : List Event} (h : Dropping s es t) :
    t.link = s.link := by
  have hpath : Path (Doing.isCall false ·) s es t := h.path
  exact hpath.unraised_of_isCall.link

/-- Opening a link gives it the next number, if it succeeds. -/
theorem Opening.link {s t : Session ω} {r : Except Fault Unit} {es : List Event}
    (h : Opening s r es t) : t.link = s.link + if r.isOk = true then 1 else 0 := by
  cases h with
  | refused _ hdid => exact hdid.link.trans (UInt32.add_zero _).symm
  | failed _ _ _ hdid => exact hdid.link.trans (UInt32.add_zero _).symm
  | opened _ _ hdid => exact hdid.link

variable [Environment ω]

/-! ### The moves -/

/-- A move has the outcome, and leaves the session, that doing it yields. -/
theorem yields_outcome (s : Session ω) (move : Move ω) :
    Yields (act move) s (s.outcome move) (s.step move) := by
  have h := yields_complete (Action.attempt (act move)) s
  change Yields (Action.attempt (act move)) s (.ok (s.outcome move)) (s.step move) at h
  obtain ⟨r, hr, he⟩ := yields_attempt.1 h
  cases he
  exact hr

/-- A move goes in one way only. -/
theorem outcome_of_yields {s t : Session ω} {move : Move ω} {r : Except Fault Unit}
    (h : Yields (act move) s r t) : s.outcome move = r := by
  have hr := yields_iff_complete.1 (yields_attempt.2 ⟨r, h, rfl⟩)
  exact (Except.ok.inj hr.1).symm

/-- What doing a move yields is the session after it. -/
theorem step_of_yields {s t : Session ω} {move : Move ω} {r : Except Fault Unit}
    (h : Yields (act move) s r t) : s.step move = t :=
  (yields_iff_complete.1 (yields_attempt.2 ⟨r, h, rfl⟩)).2.symm

/-- A move that begins with a handshake. -/
def Move.opens : Move ω → Bool
  | .handshake | .reconnect => true
  | _ => false

/-- A move that does not begin with a handshake opens no link. -/
theorem unraised_step (s : Session ω) {move : Move ω} (closed : move.opens = false) :
    ∃ es, Path (· ≠ .raise) s es (s.step move) := by
  have h := yields_outcome s move
  -- Only what the move yields counts from here on.
  generalize s.outcome move = r at h
  generalize s.step move = t at h
  have called : ∀ {es : List Event}, Path (Doing.isCall false ·) s es t →
      ∃ es, Path (· ≠ .raise) s es t := fun hes => ⟨_, hes.unraised_of_isCall⟩
  cases move with
  | handshake => cases closed
  | reconnect => cases closed
  | publish topic payload qos =>
    obtain ⟨es, hes⟩ := publishing_of_publish h
    exact called hes.path
  | subscribe filter qos =>
    obtain ⟨x, hs⟩ := yields_discard h
    obtain ⟨es, hes⟩ := subscribing_of_subscribe hs
    exact called hes.path
  | acknowledge packetId =>
    obtain ⟨es, hes⟩ := transmitting_of_transmit h
    exact ⟨es, hes.unraised rfl⟩
  | serviceKeepAlive time =>
    obtain ⟨es, hes⟩ := keepingAlive_of_serviceKeepAlive h
    exact ⟨es, hes.unraised⟩
  | receive capacity timeout =>
    obtain ⟨x, hs⟩ := yields_discard h
    obtain ⟨es, hes⟩ := receiving_of_receive hs
    exact ⟨es, hes.path.unraised⟩
  | ponged time =>
    obtain ⟨-, rfl⟩ := yields_modify.1 h
    exact ⟨[], .single (by simp) (.timed _ (.refl _))⟩
  | nextPacketId =>
    simp only [act, nextPacketId, bind_assoc, yields_get_bind, yields_modify_bind, pure_bind,
      yields_pure] at h
    obtain ⟨-, rfl⟩ := h
    exact ⟨[], .single (by simp) (.tuned _ (.refl _))⟩
  | disconnect =>
    obtain ⟨-, es, hes⟩ := leaving_of_disconnect h
    exact called hes.path
  | dropLink =>
    obtain ⟨-, es, hes⟩ := dropping_of_dropLink h
    exact called hes.path
  | wait ms =>
    exact ⟨[], .single (by simp) (.tuned _ (did_setWorld h (fun _ => rfl) fun _ => rfl))⟩
  | become environment =>
    exact ⟨[], .single (by simp) (.tuned _ (did_setWorld h (fun _ => rfl) fun _ => rfl))⟩

/-- **Every move of a session is a run of its steps.**  One case for each move, by the
ways in which its operation can go. -/
theorem path_step (s : Session ω) (move : Move ω) :
    ∃ es, Path (fun _ => True) s es (s.step move) := by
  cases hopens : move.opens with
  | false =>
    obtain ⟨es, hes⟩ := unraised_step s hopens
    exact ⟨es, hes.any⟩
  | true =>
    have h := yields_outcome s move
    cases move with
    | handshake =>
      obtain ⟨es, u, fs, hdrop, down, hopen⟩ := opening_of_handshake h
      have hraised : Path (Doing.isCall true ·) s es u := hdrop.path
      exact ⟨_, hraised.any.trans (.single trivial (.raised down hopen))⟩
    | reconnect =>
      obtain ⟨es, hes⟩ := reconnecting_of_reconnect h
      exact ⟨es, hes.path.any⟩
    | _ => cases hopens

/-- What every step keeps holds after any run of moves. -/
theorem run_preserves {Inv : Session ω → Prop}
    (keep : ∀ {d : Doing} {s t : Session ω} {es : List Event}, Inv s → Step d s es t → Inv t)
    {s : Session ω} (moves : List (Move ω)) (h : Inv s) : Inv (s.run moves) := by
  induction moves generalizing s with
  | nil => exact h
  | cons move moves ih =>
    obtain ⟨es, hes⟩ := path_step s move
    exact ih (hes.preserves (fun _ => keep) h)

/-! ### The number of the link -/

/-- The move begins with a handshake, and it succeeds. -/
def connects (s : Session ω) (move : Move ω) : Bool :=
  move.opens && (s.outcome .handshake).isOk

/-- How many handshakes succeed in a run of moves. -/
def handshakesIn (s : Session ω) : List (Move ω) → Nat
  | [] => 0
  | move :: moves => (if s.connects move = true then 1 else 0) + (s.step move).handshakesIn moves

/-- The number of links grows by one in a handshake that succeeds, and not at all in one
that fails. -/
theorem link_of_handshake {s t : Session ω} {r : Except Fault Unit} (h : Yields handshake s r t) :
    t.link = s.link + if r.isOk = true then 1 else 0 := by
  obtain ⟨es, u, fs, hdrop, -, hopen⟩ := opening_of_handshake h
  rw [hopen.link, hdrop.link]

/-- What a session does after the handshake to connect anew leaves the number of its
link alone, also where it gives the link up. -/
theorem link_of_reconnect {s t : Session ω} {r : Except Fault Unit} (h : Yields reconnect s r t) :
    ∃ x u, Yields handshake s x u ∧ t.link = u.link := by
  rw [reconnect] at h
  rcases yields_bind.1 h with ⟨fault, hh, rfl⟩ | ⟨⟨⟩, u, hh, h⟩
  · exact ⟨_, t, hh, rfl⟩
  · refine ⟨_, u, hh, ?_⟩
    obtain ⟨_, _, _, -, -, hopen⟩ := opening_of_handshake hh
    obtain ⟨x, v, hr, h⟩ := yields_attempt_bind.1 h
    obtain ⟨id, es, -, hdid⟩ := replaying_of_replay hopen.connection hr
    have hsame : v.link = u.link := hdid.link
    cases x with
    | error fault =>
      obtain ⟨w, hn, h⟩ := yields_notice_bind h
      rcases yields_bind.1 h with ⟨_, hd, -⟩ | ⟨⟨⟩, y, hd, h⟩
      · exact absurd (dropping_of_dropLink hd).1 (by simp)
      · obtain ⟨-, rfl⟩ := yields_throw_bind.1 h
        obtain ⟨fs, hdrop⟩ := (dropping_of_dropLink hd).2
        rw [hdrop.link, hn.link, hsame]
    | ok a =>
      simp only [restartKeepAlive, yields_modify_bind, yields_get_bind] at h
      split at h
      case isTrue => exact (did_notice h).2.link.trans hsame
      case isFalse =>
        obtain ⟨-, rfl⟩ := yields_pure.1 h
        exact hsame

/-- **The number of the link grows by one exactly if the move's handshake succeeds.**  A
move makes at most one handshake, and it makes it first. -/
theorem link_step (s : Session ω) (move : Move ω) :
    (s.step move).link = s.link + if s.connects move = true then 1 else 0 := by
  cases hopens : move.opens with
  | false =>
    obtain ⟨es, hes⟩ := unraised_step s hopens
    simp [connects, hopens, hes.link]
  | true =>
    have hsame : ∃ x u, Yields handshake s x u ∧ (s.step move).link = u.link := by
      have h := yields_outcome s move
      cases move with
      | handshake => exact ⟨_, _, h, rfl⟩
      | reconnect => exact link_of_reconnect h
      | _ => cases hopens
    obtain ⟨x, u, hu, hlink⟩ := hsame
    have hact : Yields (act .handshake) s x u := hu
    have hx : s.outcome .handshake = x := outcome_of_yields hact
    rw [hlink, link_of_handshake hu, connects, hopens, hx, Bool.true_and]

/-- The number of the link counts the handshakes that succeeded, up to wrapping. -/
theorem link_run (s : Session ω) (moves : List (Move ω)) :
    (s.run moves).link = s.link + (s.handshakesIn moves).toUInt32 := by
  induction moves generalizing s with
  | nil => exact (UInt32.add_zero _).symm
  | cons move moves ih =>
    have hrest : (s.run (move :: moves)).link = _ := ih (s.step move)
    rw [hrest, link_step, handshakesIn, UInt32.add_assoc]
    split <;> simp [Nat.toUInt32, UInt32.ofNat_add]

end Session
end Mqtt
