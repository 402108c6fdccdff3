/-
# Reading before a deadline

Bytes are read chunk by chunk until as many are there as are wanted.  Every read asks for
all that is still missing and is given what is left of one timeout, so the deadline is the
same however the bytes are cut, however long each read takes and wherever the clock wraps.

| what happens | what comes of it |
| --- | --- |
| the bytes are there | they are given, and none behind them is taken |
| the timeout has passed before they are there, or a read gives none | timeout |
| a read fails | read error |

A read after which it goes on takes at least a byte, so there are at most as many reads as
bytes wanted.  What comes of it is told from the answers alone (`Filled`), and what is asked
from the answers before (`Punctual`).  The answer to CONNECT is read in two parts, before one
deadline for both.  The main statement is `fill_punctual`.
-/
import Mqtt.Proofs.Session.Admission

namespace Mqtt

open Mqtt.Action

/-- What a read was answered. -/
def Event.answer? : Event → Option (Except NetFault (List UInt8))
  | .read _ _ _ result => some result
  | _ => none

/-- What the reads were answered, in order. -/
def answers (events : List Event) : List (Except NetFault (List UInt8)) :=
  events.filterMap (·.answer?)

/-- The bytes that the answers gave, in order. -/
def gathered : List (Except NetFault (List UInt8)) → List UInt8
  | [] => []
  | .ok bytes :: answers => bytes ++ gathered answers
  | .error _ :: answers => gathered answers

/-- The answers to reads in two stretches of a history come one after the other. -/
theorem answers_append (es fs : List Event) : answers (es ++ fs) = answers es ++ answers fs :=
  List.filterMap_append

/-- The bytes of two runs of answers come one after the other. -/
theorem gathered_append (answers more : List (Except NetFault (List UInt8))) :
    gathered (answers ++ more) = gathered answers ++ gathered more := by
  induction answers with
  | nil => rfl
  | cons answer answers ih =>
    cases answer with
    | ok bytes => rw [List.cons_append, gathered, gathered, ih, List.append_assoc]
    | error fault => exact ih

/-- Every read is from the one connection, asks for the bytes that are missing after those
that the reads before it gave, and is given what is left of the timeout, which is never
nothing. -/
def Punctual (connection : Nat) (started timeout : UInt32) (missing : Nat → Nat)
    (done : List Stamped) : Prop :=
  ∀ before time c capacity patience answer after,
    done = before ++ ⟨time, .read c capacity patience answer⟩ :: after →
      c = connection ∧ capacity = missing (gathered (answers (before.map (·.event)))).length ∧
        1 ≤ capacity ∧ 1 ≤ patience ∧ patience.toNat + (elapsed time started).toNat = timeout.toNat

namespace Punctual

variable {connection : Nat} {started timeout : UInt32} {missing : Nat → Nat}
  {done later : List Stamped}

/-- Where nothing is read, no read comes too late. -/
theorem of_unread (unread : answers (done.map (·.event)) = []) :
    Punctual connection started timeout missing done := by
  rintro before time c capacity patience answer after rfl
  rw [List.map_append, answers_append] at unread
  exact nomatch (List.append_eq_nil_iff.1 unread).2

/-- One read that begins in time. -/
theorem read {time : UInt32} {capacity : Nat} {answer : Except NetFault (List UInt8)}
    (lacks : capacity ≠ 0) (asked : capacity = missing 0) (early : elapsed time started < timeout) :
    Punctual connection started timeout missing
      [⟨time, .read connection capacity (timeout - elapsed time started) answer⟩] := by
  intro before time' c capacity' patience answer' after hsplit
  cases before with
  | cons d before => simp at hsplit
  | nil =>
    obtain ⟨⟨⟩, -⟩ := List.cons.inj hsplit
    have hlt : (elapsed time started).toNat < timeout.toNat := early
    have hleft : (timeout - elapsed time started).toNat =
        timeout.toNat - (elapsed time started).toNat :=
      UInt32.toNat_sub_of_le _ _ (UInt32.le_of_lt early)
    refine ⟨rfl, asked, Nat.one_le_iff_ne_zero.2 lacks, ?_, ?_⟩
    · rw [UInt32.le_iff_toNat_le, hleft]
      exact Nat.sub_pos_of_lt hlt
    · rw [hleft]
      exact Nat.sub_add_cancel (Nat.le_of_lt hlt)

/-- What is missing is counted on from one part to the next. -/
theorem append (h : Punctual connection started timeout missing done)
    (h' : Punctual connection started timeout
      (fun n => missing ((gathered (answers (done.map (·.event)))).length + n)) later) :
    Punctual connection started timeout missing (done ++ later) := by
  intro before time c capacity patience answer after hsplit
  rcases append_eq_append_cons hsplit with ⟨rest, rfl, -⟩ | ⟨rest, rfl, rfl⟩
  · exact h before time c capacity patience answer rest rfl
  · have hread := h' rest time c capacity patience answer after rfl
    rwa [List.map_append, answers_append, gathered_append, List.length_append]

/-- Only what is missing where a read begins matters. -/
theorem congr {missing' : Nat → Nat} (h : Punctual connection started timeout missing done)
    (same : ∀ n, missing n ≠ 0 → missing' n = missing n) :
    Punctual connection started timeout missing' done := by
  intro before time c capacity patience answer after hsplit
  obtain ⟨hc, hasked, hpos, hrest⟩ := h before time c capacity patience answer after hsplit
  exact ⟨hc, hasked.trans (same _ (by omega)).symm, hpos, hrest⟩

end Punctual

namespace World

variable {ω : Type} {connection : Nat} {started timeout : UInt32} {missing : Nat → Nat}
  {w w' w'' : World ω} {es fs : List Event}

/-- The world went on with punctual reads, and this is all that was done. -/
def Reads (connection : Nat) (started timeout : UInt32) (missing : Nat → Nat) (w : World ω)
    (es : List Event) (w' : World ω) : Prop :=
  ∃ done : List Stamped, w'.history = done.reverse ++ w.history ∧ done.map (·.event) = es ∧
    Punctual connection started timeout missing done

/-- A stretch in which nothing is read has only punctual reads. -/
theorem Ran.reads (h : w.Ran es w') (unread : answers es = []) :
    w.Reads connection started timeout missing es w' := by
  obtain ⟨new, hnew, rfl⟩ := h.grown
  exact ⟨new.reverse, by rw [List.reverse_reverse, hnew], rfl, .of_unread unread⟩

/-- A read that begins at once, and in time. -/
theorem Begins.reads {answer : Except NetFault (List UInt8)} {capacity : Nat} (h : w.Begins w')
    (ran : w.Ran (.read connection capacity (timeout - elapsed w.clock started) answer :: es) w')
    (lacks : capacity ≠ 0) (asked : capacity = missing 0)
    (early : elapsed w.clock started < timeout) (unread : answers es = []) :
    w.Reads connection started timeout missing
      (.read connection capacity (timeout - elapsed w.clock started) answer :: es) w' := by
  obtain ⟨later, hlater, rfl⟩ := h.first ran
  refine ⟨_ :: later.reverse, ?_, rfl, .append (.read lacks asked early) (.of_unread unread)⟩
  rw [hlater, List.reverse_cons, List.reverse_reverse, List.append_assoc]
  rfl

/-- Punctual reads go on being punctual: those of the second stretch want what the first
has left missing, before the same deadline. -/
theorem Reads.trans (h : w.Reads connection started timeout missing es w')
    (h' : w'.Reads connection started timeout
      (fun n => missing ((gathered (answers es)).length + n)) fs w'') :
    w.Reads connection started timeout missing (es ++ fs) w'' := by
  obtain ⟨done, hdone, rfl, hpunctual⟩ := h
  obtain ⟨later, hlater, rfl, hlate⟩ := h'
  refine ⟨done ++ later, ?_, List.map_append, hpunctual.append hlate⟩
  rw [hlater, hdone, List.reverse_append, List.append_assoc]

/-- How much is missing counts only where something is read, for a read wants at least a
byte. -/
theorem Reads.congr {missing' : Nat → Nat} (h : w.Reads connection started timeout missing es w')
    (same : ∀ n, missing n ≠ 0 → missing' n = missing n) :
    w.Reads connection started timeout missing' es w' := by
  obtain ⟨done, hdone, hes, hpunctual⟩ := h
  exact ⟨done, hdone, hes, hpunctual.congr same⟩

end World

/-- What comes of reading so many bytes before a deadline, told from what the reads were
answered and from whether the time is over after them. -/
structure Filled (missing : Nat) (expired : Prop) (answers : List (Except NetFault (List UInt8)))
    (r : Except Fault (List UInt8)) : Prop where
  /-- There is at most one answer for each byte that is missing. -/
  few : answers.length ≤ missing
  /-- The bytes are the answers put together, all that were asked for. -/
  ok_iff : ∀ bytes, r = .ok bytes ↔ gathered answers = bytes ∧ bytes.length = missing
  /-- Time runs out at an answer without bytes, or at the deadline. -/
  timeout_iff : r = .error .timeout ↔ (gathered answers).length < missing ∧
    (.ok [] ∈ answers ∨ (∀ fault, .error fault ∉ answers) ∧ expired)
  /-- An answer that is a fault ends it. -/
  readError_iff : r = .error .readError ↔ ∃ fault, .error fault ∈ answers
  /-- It fails in no other way. -/
  fault : ∀ fault, r = .error fault → fault = .timeout ∨ fault = .readError

namespace Filled

variable {missing : Nat} {expired : Prop}

/-- Where nothing is missing, no bytes are given and nothing is read. -/
theorem done : Filled 0 expired [] (.ok []) where
  few := Nat.le_refl _
  ok_iff bytes := by
    constructor
    · rintro ⟨⟩
      exact ⟨rfl, rfl⟩
    · rintro ⟨rfl, -⟩
      rfl
  timeout_iff := by simp
  readError_iff := by simp
  fault := nofun

/-- Too few bytes are not given. -/
theorem not_ok {answers : List (Except NetFault (List UInt8))} {fault : Fault}
    (short : (gathered answers).length < missing) (bytes : List UInt8) :
    Except.error fault = .ok bytes ↔ gathered answers = bytes ∧ bytes.length = missing := by
  refine iff_of_false nofun ?_
  rintro ⟨rfl, hlength⟩
  exact Nat.ne_of_lt short hlength

/-- Where something is missing and the time is over, nothing is read and the time is what
ends it. -/
theorem late (lacks : missing ≠ 0) (hexpired : expired) : Filled missing expired [] (.error .timeout) where
  few := Nat.zero_le _
  ok_iff := not_ok (Nat.pos_of_ne_zero lacks)
  timeout_iff := by simp [gathered, hexpired, Nat.pos_of_ne_zero lacks]
  readError_iff := by simp
  fault := by simp

/-- A read that fails ends it, whatever time is left. -/
theorem failed (lacks : missing ≠ 0) (fault : NetFault) :
    Filled missing expired [.error fault] (.error .readError) where
  few := Nat.pos_of_ne_zero lacks
  ok_iff := not_ok (Nat.pos_of_ne_zero lacks)
  timeout_iff := by simp
  readError_iff := by simp
  fault := by simp

/-- A read that gives no bytes ends it as a timeout, whatever time is left: the time it
was given was all there was. -/
theorem ended (lacks : missing ≠ 0) : Filled missing expired [.ok []] (.error .timeout) where
  few := Nat.pos_of_ne_zero lacks
  ok_iff := not_ok (Nat.pos_of_ne_zero lacks)
  timeout_iff := by simp [gathered, Nat.pos_of_ne_zero lacks]
  readError_iff := by simp
  fault := by simp

/-- A read that gives some of the bytes leaves the rest to those after it. -/
theorem more {chunk : List UInt8} {answers : List (Except NetFault (List UInt8))}
    {r : Except Fault (List UInt8)} (some : chunk ≠ []) (fits : chunk.length ≤ missing)
    (h : Filled (missing - chunk.length) expired answers r) :
    Filled missing expired (.ok chunk :: answers) (r.map (chunk ++ ·)) := by
  have hpos : 0 < chunk.length := List.length_pos_iff.2 some
  have hfault : ∀ fault, r.map (chunk ++ ·) = .error fault ↔ r = .error fault := by
    cases r <;> simp [Except.map]
  refine ⟨?_, fun bytes => ?_, ?_, ?_, fun fault hr => h.fault fault ((hfault fault).1 hr)⟩
  · have hfew := h.few
    rw [List.length_cons]
    omega
  · rw [gathered]
    constructor
    · intro hr
      cases r with
      | error => cases hr
      | ok rest =>
        cases hr
        obtain ⟨rfl, hlength⟩ := (h.ok_iff rest).1 rfl
        exact ⟨rfl, by rw [List.length_append]; omega⟩
    · rintro ⟨rfl, hlength⟩
      rw [List.length_append] at hlength
      rw [(h.ok_iff _).2 ⟨rfl, by omega⟩]
      rfl
  · have hlength : (gathered answers).length < missing - chunk.length ↔
        chunk.length + (gathered answers).length < missing := by omega
    rw [hfault, h.timeout_iff, hlength, gathered, List.length_append]
    simp [Ne.symm some]
  · rw [hfault, h.readError_iff]
    simp

end Filled

namespace Session

variable {ω : Type} [Environment ω] {connection missing : Nat} {started timeout : UInt32}
  {s t : Session ω} {r : Except Fault (List UInt8)} {es : List Event}

/-- **Reading chunk by chunk comes to what `Filled` says**, told from the answers and
from the clock after them.  By induction on the reads, with one lemma about `Filled` for
each way one of them can end. -/
theorem Filling.filled (h : Filling connection started timeout missing s r es t) :
    Filled missing (timeout ≤ elapsed t.world.clock started) (answers es) r := by
  induction h with
  | done => exact .done
  | late lacks expired => exact .late lacks expired
  | failed lacks => exact .failed lacks _
  | ended lacks => exact .ended lacks
  | @more missing _ _ _ chunk _ _ _ _ _ some _ _ _ _ _ ih => exact .more some chunk.property ih

/-- **Reading chunk by chunk reads punctually.**  Each read wants what those before it
have left missing, and is given the time that is left. -/
theorem Filling.reads (h : Filling connection started timeout missing s r es t) :
    s.world.Reads connection started timeout (missing - ·) es t.world := by
  induction h with
  | done s => exact (World.Ran.refl s.world).reads rfl
  | @late _ s => exact (World.Ran.refl s.world).reads rfl
  | failed lacks early _ hdid hbegun => exact hbegun.reads hdid.ran lacks rfl early rfl
  | ended lacks early _ _ hdid hbegun => exact hbegun.reads hdid.ran lacks rfl early rfl
  | @more missing s u _ chunk _ _ lacks early _ _ hdid hbegun _ _ _ ih =>
    have hfirst : s.world.Reads connection started timeout (missing - ·) _ u.world :=
      hbegun.reads hdid.ran lacks rfl early rfl
    have hgathered : ∀ patience, gathered (answers [.read connection missing patience
        (.ok chunk.val)]) = chunk.val := fun _ => List.append_nil _
    exact hfirst.trans (ih.congr fun n _ => by rw [hgathered, Nat.sub_sub])

/-- An exact read both reads punctually and comes to what its answers say. -/
theorem reads_of_fill (h : Yields (fill connection started timeout missing) s r t) :
    ∃ es, s.world.Reads connection started timeout (missing - ·) es t.world ∧
      Filled missing (timeout ≤ elapsed t.world.clock started) (answers es) r := by
  obtain ⟨es, hes⟩ := filling_of_fill h
  exact ⟨es, hes.reads, hes.filled⟩

/-! ### The answer to CONNECT -/

omit [Environment ω] in
/-- Sending reads nothing. -/
theorem Sending.answers {frame : List UInt8} {x : Except Fault Unit}
    (h : Sending connection frame x es) : answers es = [] := by
  cases h <;> rfl

/-- What is missing of the two parts of the answer. -/
def missingParts (got : Nat) : Nat :=
  if got < 2 then 2 - got else 4 - got

/-- After CONNECT the first part is read, which has two bytes. -/
theorem reads_head {frame : List UInt8} {u : Session ω}
    (hsend : Yields (sendFrame connection frame) s (.ok ()) u)
    (hfill : Yields (fill connection u.world.clock timeout 2) u r t) :
    ∃ es, s.world.Reads connection
        (s.world.clock + (Environment.sent frame s.world.environment).took) timeout missingParts es
        t.world ∧ (answers es).length ≤ 2 ∧
      ∀ head, r = .ok head → (gathered (answers es)).length = 2 := by
  obtain ⟨es, hes, hdid⟩ := sending_of_sendFrame hsend
  obtain ⟨-, hclock, -⟩ := sent_of_sendFrame hsend
  obtain ⟨fs, hreads, hfilled⟩ := reads_of_fill hfill
  rw [hclock] at hreads
  have hnone : answers (es ++ fs) = answers fs := by rw [answers_append, hes.answers, List.nil_append]
  refine ⟨es ++ fs, (hdid.ran.reads hes.answers).trans (hreads.congr fun n hn => ?_), ?_,
    fun head hr => ?_⟩
  · rw [hes.answers, gathered, List.length_nil, Nat.zero_add, missingParts, if_pos (by omega)]
  · rw [hnone]
    exact hfilled.few
  · obtain ⟨hgathered, hlength⟩ := (hfilled.ok_iff head).1 hr
    rw [hnone, hgathered, hlength]

/-- After the first part the second is read, which has two bytes as well. -/
theorem reads_body {u : Session ω}
    (hhead : s.world.Reads connection started timeout missingParts es u.world)
    (full : (gathered (answers es)).length = 2) (few : (answers es).length ≤ 2)
    (hfill : Yields (fill connection started timeout 2) u r t) :
    ∃ fs, s.world.Reads connection started timeout missingParts fs t.world ∧
      (answers fs).length ≤ 4 := by
  obtain ⟨fs, hreads, hfilled⟩ := reads_of_fill hfill
  have hfew := hfilled.few
  refine ⟨es ++ fs, hhead.trans (hreads.congr fun n _ => ?_), ?_⟩
  · rw [full, missingParts, if_neg (by omega)]
    omega
  · rw [answers_append, List.length_append]
    omega

/-- The parts of the answer are read before one deadline. -/
theorem Greeting.reads {frame : List UInt8} {x : Except Fault Bool}
    (hpack : (Outbound.connect s.settings.connect).pack frameLimit = .ok frame)
    (h : Greeting connection s x t) :
    ∃ es, s.world.Reads connection
        (s.world.clock + (Environment.sent frame s.world.environment).took)
        s.settings.connectTimeout missingParts es t.world ∧ (answers es).length ≤ 4 := by
  -- Both parts are read from the moment CONNECT was sent on, so before the same deadline.
  cases h with
  | unpackable hbad => exact nomatch hbad.symm.trans hpack
  | unsent _ hsend =>
    obtain ⟨es, hes, hdid⟩ := sending_of_sendFrame hsend
    exact ⟨es, hdid.ran.reads hes.answers, by rw [hes.answers]; exact Nat.zero_le _⟩
  | headless hsame hsend hhead =>
    cases hpack.symm.trans hsame
    obtain ⟨es, hreads, hfew, -⟩ := reads_head hsend hhead
    exact ⟨es, hreads, Nat.le_trans hfew (by decide)⟩
  | @unexpected _ head _ _ _ hsame hsend hhead _ hdid =>
    cases hpack.symm.trans hsame
    obtain ⟨es, hreads, hfew, -⟩ := reads_head hsend hhead
    refine ⟨es ++ [.notice (.unexpectedHead head)], hreads.trans (hdid.ran.reads rfl), ?_⟩
    rw [answers_append, List.length_append]
    exact Nat.le_trans hfew (by decide)
  | bodiless hsame hsend hhead _ hbody =>
    cases hpack.symm.trans hsame
    obtain ⟨-, hclock, -⟩ := sent_of_sendFrame hsend
    obtain ⟨es, hreads, hfew, hfull⟩ := reads_head hsend hhead
    exact reads_body hreads (hfull _ rfl) hfew (hclock ▸ hbody)
  | answered hsame hsend hhead _ hbody =>
    cases hpack.symm.trans hsame
    obtain ⟨-, hclock, -⟩ := sent_of_sendFrame hsend
    obtain ⟨es, hreads, hfew, hfull⟩ := reads_head hsend hhead
    exact reads_body hreads (hfull _ rfl) hfew (hclock ▸ hbody)

/-- **Reading keeps its deadline.**  Whatever the environment answers, however long it takes
and wherever the clock stands, reading so many bytes ends after at most that many reads, each
of which asks for the bytes still missing, within the time that is left then.  The bytes are
given exactly if they are all there, and none are taken but those.  It is a timeout exactly
if some are missing after a read gave none, or after the time was over; and a read error
exactly if a read failed.  Both parts of the answer to CONNECT have the one deadline that is
set when CONNECT has been sent. -/
theorem fill_punctual (connection : Nat) (s : Session ω) :
    (∀ started timeout missing, ∃ r t es,
      Yields (fill connection started timeout missing) s r t ∧
        s.world.Reads connection started timeout (missing - ·) es t.world ∧
        Filled missing (timeout ≤ elapsed t.world.clock started) (answers es) r) ∧
    ∃ frame r t es, (Outbound.connect s.settings.connect).pack frameLimit = .ok frame ∧
      Yields (exchange connection) s r t ∧
        s.world.Reads connection
          (s.world.clock + (Environment.sent frame s.world.environment).took)
          s.settings.connectTimeout missingParts es t.world ∧ (answers es).length ≤ 4 := by
  refine ⟨fun started timeout missing => ?_, ?_⟩
  · obtain ⟨r, t, hfill⟩ := exists_yields (fill connection started timeout missing) s
    obtain ⟨es, hreads, hfilled⟩ := reads_of_fill hfill
    exact ⟨r, t, es, hfill, hreads, hfilled⟩
  · obtain ⟨frame, hpack⟩ := packs_connect s.settings
    obtain ⟨r, t, hexchange⟩ := exists_yields (exchange connection) s
    obtain ⟨es, hreads, hfew⟩ := (greeting_of_exchange hexchange).reads hpack
    exact ⟨frame, r, t, es, hpack, hexchange, hreads, hfew⟩

end Session
end Mqtt
