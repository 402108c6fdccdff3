/-
# Sessions with built settings

A session takes its settings as they are: it looks at no text again before it sends the
request of a handshake.  That is enough, for settings that were built ask for nothing that
does not fit (`request_of_build`).  In whatever order the changes were made, and however
often, a handshake does not end for lack of room.
-/
import Mqtt.Proofs.Session.Failure

namespace Mqtt
namespace Session

/-- **What is built can be asked for.**  Settings that come out of any changes ask for the
session that the last change of each kind describes: with a password only if there is a user
name, with texts of at most 64 bytes, in at most 211 bytes of a frame, whatever was in the
room for the frame before.  A poll takes the last time that was set, but at least a
millisecond.  So opening a link never fails because something is too large, whatever the
environment does. -/
theorem request_of_build {host clientId : String} {tcpPort : UInt16} {changes : List Setting}
    {settings : Settings} (built : Settings.build host tcpPort clientId changes = .ok settings) :
    settings.connect = Settings.asked clientId changes ∧
      (settings.connect.password.isSome = true → settings.connect.userName.isSome = true) ∧
      (∀ s ∈ (Outbound.connect settings.connect).texts, s.utf8ByteSize ≤ 64) ∧
      (∃ bytes : List UInt8, bytes.length ≤ 211 ∧
        ∀ room : List UInt8, room.length = frameLimit →
          (Outbound.connect settings.connect).pack frameLimit = .ok bytes ∧
            (Outbound.connect settings.connect).putInto (Buffer.ofRoom room) =
              .ok ⟨bytes, room.drop bytes.length⟩) ∧
      (settings.pollTimeout = max ((Setting.last Setting.pollTimeout? changes).getD 100) 1 ∧
        1 ≤ settings.pollTimeout) ∧
      ∀ {ω : Type} [Environment ω] (s : Session ω) (move : Move ω),
        s.settings = settings → move.opens = true → s.outcome move ≠ .error .bufferTooSmall := by
  obtain ⟨-, reflects⟩ := Settings.reflects_of_build built
  obtain ⟨bytes, hsize, hfits⟩ := settings.exists_pack_connect
  refine ⟨reflects.connect_eq, fun password => ?_, fun s => settings.size_le_of_mem_texts,
    ⟨bytes, hsize, fun room hroom => hroom ▸ hfits room (by rw [hroom]; decide)⟩,
    ⟨reflects.pollTimeout, settings.one_le_pollTimeout⟩, fun s move _ opens failed => ?_⟩
  · obtain ⟨text, htext⟩ := Option.isSome_iff_exists.1 password
    obtain ⟨credentials, hcredentials, -⟩ := Option.bind_eq_some_iff.1 htext
    rw [Settings.connect, hcredentials]
    rfl
  -- Only a move that opens a link sends CONNECT, and which faults those end with is known.
  · have h := yields_outcome s move
    rw [failed] at h
    cases move with
    | handshake => exact absurd (fault_of_handshake h) (by decide)
    | reconnect => exact absurd (fault_of_reconnect h) (by decide)
    | _ => cases opens

/-- A change of the user name alone takes the password away, and a poll of no time is
lengthened. -/
theorem request_of_build_twice : ∃ settings : Settings,
    Settings.build "broker" 1883 "c"
        [.credentials "u" (some "secret"), .pollTimeout 0, .credentials "v" none] = .ok settings ∧
      settings.connect = ⟨"c", some "v", none, 60, true⟩ ∧ settings.pollTimeout = 1 ∧
      ∀ s : Session Script, s.settings = settings →
        s.outcome .handshake ≠ .error .bufferTooSmall := by
  have fits : Settings.Fits "broker" "c"
      [.credentials "u" (some "secret"), .pollTimeout 0, .credentials "v" none] :=
    ⟨by decide, by decide, by decide⟩
  obtain ⟨settings, built, -⟩ := Settings.build_of_fits 1883 fits
  obtain ⟨asked, -, -, -, ⟨poll, -⟩, roomy⟩ := request_of_build built
  exact ⟨settings, built, asked, poll, fun s hs => roomy s .handshake hs rfl⟩

end Session
end Mqtt
