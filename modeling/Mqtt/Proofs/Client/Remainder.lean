/-
# What is left to dispatch

A worker dispatches the bytes it holds frame by frame.  Calls can be made all the while,
by the program or by the handler, time passes, and the worker can be made to end; none of
it changes which bytes are still to be dispatched.  `Carries` says so of whatever is done
during a dispatch: the frames taken are those at the start of the bytes held, in their
order (`Cuts`), and what follows them is held on, or discarded with the link it came over
(`Leaves`).  It is kept along a run (`run_carries`), for every step of a dispatch takes at
most the next frame.
-/
import Mqtt.Proofs.Client.Acts

namespace Mqtt

/-- What acts on nothing takes no frame. -/
theorem Without.unframed {es : List Event} (h : Without Event.isAct es) :
    Without Event.isFrame es := by
  intro e he
  have hact := h e he
  cases e <;> first | rfl | cases hact

namespace Worker

variable {ω : Type} {worker next : Worker} {s t : Session ω} {es : List Event}

/-- These frames are cut off the bytes, one after the other, and that is left. -/
inductive Cuts : (bytes : List UInt8) → (frames : List (List UInt8)) → (left : List UInt8) → Prop
  /-- No frame need be cut off. -/
  | nil (bytes : List UInt8) : Cuts bytes [] bytes
  /-- A whole frame is cut off, and others from what comes after it. -/
  | cons {bytes frame rest left : List UInt8} {frames : List (List UInt8)}
      {split : bytes = frame ++ rest} {nonempty : frame ≠ []} :
      Cut.first capacity bytes = .whole frame rest split nonempty → Cuts rest frames left →
      Cuts bytes (frame :: frames) left

/-- Frames cut off one after the other can be cut off in two parts. -/
theorem Cuts.trans {bytes left last : List UInt8} {frames more : List (List UInt8)}
    (h : Cuts bytes frames left) (h' : Cuts left more last) : Cuts bytes (frames ++ more) last := by
  induction h with
  | nil => exact h'
  | cons hcut _ ih => exact .cons hcut (ih h')

/-- From no bytes, no frame is cut. -/
theorem Cuts.of_nil {frames : List (List UInt8)} {left : List UInt8} (h : Cuts [] frames left) :
    frames = [] ∧ left = [] := by
  cases h with
  | nil => exact ⟨rfl, rfl⟩
  | @cons _ _ _ _ _ split nonempty => exact absurd (List.append_eq_nil_iff.1 split.symm).1 nonempty

/-- The frames taken are those of the bytes held, in their order, and that is left. -/
structure Takes (worker : Worker) (es : List Event) (left : List UInt8) : Prop where
  /-- The frames taken were cut from what was held, in order. -/
  cuts : Cuts worker.held (framesOf worker.origin.connection es) left
  /-- None was taken of another connection. -/
  others : ∀ c, c ≠ worker.origin.connection → framesOf c es = []

/-- The worker holds what was left, or discarded it for giving up the link. -/
def Leaves (left : List UInt8) (next : Worker) : Prop :=
  next.held = left ∨ next.held = [] ∧ (next.GivesUp ∨ next.errand = .pass)

/-- What a dispatch makes of the bytes held. -/
structure Carries (worker : Worker) (es : List Event) (next : Worker) : Prop where
  /-- What the worker holds afterwards is what the frames taken left, or nothing. -/
  takes : ∃ left, worker.Takes es left ∧ Leaves left next
  /-- What it holds still came over the same connection. -/
  origin : next.IsBusy → next.origin = worker.origin
  /-- A worker about to give up its link still is, or has done so. -/
  gives : worker.GivesUp → next.GivesUp ∨ next.errand = .pass

/-- Where no frame is taken, all that is held is left. -/
theorem takes_of_unframed (h : Without Event.isFrame es) : worker.Takes es worker.held where
  cuts := by
    rw [h.framesOf]
    exact .nil _
  others c _ := h.framesOf c

/-- **A dispatch goes on with what it left.**  What the first part left is what the
second starts with, unless it was discarded; then the second has nothing to take. -/
theorem Carries.trans {later : Worker} {fs : List Event} (h : worker.Carries es next)
    (busy : next.errand ≠ .pass) (h' : next.Carries fs later) :
    worker.Carries (es ++ fs) later := by
  obtain ⟨left, htakes, hleaves⟩ := h.takes
  obtain ⟨last, hnext, hlast⟩ := h'.takes
  have horigin := h.origin (.inr busy)
  refine ⟨?_, fun hbusy => (h'.origin hbusy).trans horigin, fun hgives => ?_⟩
  · have hothers : ∀ c, c ≠ worker.origin.connection → framesOf c (es ++ fs) = [] := by
      intro c hc
      rw [framesOf_append, htakes.others c hc, hnext.others c (horigin ▸ hc)]
      rfl
    have hcuts := hnext.cuts
    rw [horigin] at hcuts
    rcases hleaves with hheld | ⟨hnothing, hgave⟩
    · refine ⟨last, ⟨?_, hothers⟩, hlast⟩
      rw [framesOf_append]
      exact htakes.cuts.trans (hheld ▸ hcuts)
    -- What was discarded stays discarded.
    · rw [hnothing] at hcuts
      obtain ⟨hnone, rfl⟩ := hcuts.of_nil
      refine ⟨left, ⟨?_, hothers⟩, .inr ⟨?_, ?_⟩⟩
      · rw [framesOf_append, hnone, List.append_nil]
        exact htakes.cuts
      · rcases hlast with hheld | ⟨hheld, -⟩
        · exact hheld
        · exact hheld
      · rcases hgave with hgives | hidle
        · exact h'.gives hgives
        · exact absurd hidle busy
  · rcases h.gives hgives with hgives | hidle
    · exact h'.gives hgives
    · exact absurd hidle busy

/-- What takes no frame can come before and after. -/
theorem Takes.between {before after : List Event} {left : List UInt8}
    (h : worker.Takes es left) (hbefore : Without Event.isFrame before)
    (hafter : Without Event.isFrame after) : worker.Takes (before ++ es ++ after) left where
  cuts := by
    rw [framesOf_append, framesOf_append, hbefore.framesOf, hafter.framesOf, List.append_nil]
    exact h.cuts
  others c hc := by
    rw [framesOf_append, framesOf_append, hbefore.framesOf, hafter.framesOf, h.others c hc]
    rfl

/-- What takes no frame and leaves the worker alike carries all of it. -/
theorem Alike.carries (h : worker.Alike next) (quiet : Without Event.isFrame es) :
    worker.Carries es next where
  takes := ⟨_, takes_of_unframed quiet, .inl h.held⟩
  origin _ := h.origin
  gives := fun ⟨fault, hgives⟩ => .inl ⟨fault, h.errand.trans hgives⟩

/-- So does ending the dispatch. -/
theorem Takes.ended {left : List UInt8} (h : worker.Takes es left) :
    worker.Carries es {} where
  takes := ⟨left, h, .inr ⟨rfl, .inr rfl⟩⟩
  origin busy := absurd busy not_isBusy_new
  gives _ := .inr rfl

/-- Cutting takes the next frame off the bytes held, or none, and what follows it is held
on or discarded. -/
theorem Cutting.carries (cut : worker.errand = .cut) (h : Cutting worker s next es t) :
    worker.Carries es next := by
  have calm : ¬worker.GivesUp := not_givesUp cut (by simp)
  -- A frame is taken, and what follows it is held or discarded.
  have taken : ∀ {frame rest : List UInt8} {split : worker.held = frame ++ rest}
      {nonempty : frame ≠ []} {r : Except Fault Errand},
      Cut.first capacity worker.held = .whole frame rest split nonempty →
        Handling worker.origin frame s r es t → Leaves rest next →
          ∃ left, worker.Takes es left ∧ Leaves left next := by
    intro frame rest split nonempty r hcut hhandling hleaves
    obtain ⟨u, turn, rfl, -, hpath⟩ := hhandling.begun
    have hturn := hpath.frameless
    refine ⟨rest, ⟨?_, fun c hc => ?_⟩, hleaves⟩
    · rw [← List.singleton_append, framesOf_append, framesOf_frame, if_pos rfl, hturn.framesOf]
      exact .cons hcut (.nil _)
    · rw [← List.singleton_append, framesOf_append, framesOf_frame, if_neg (Ne.symm hc),
        hturn.framesOf]
      rfl
  refine ⟨?_, fun _ => h.origin, fun hgives => absurd hgives calm⟩
  cases h with
  | unfinished => exact ⟨_, takes_of_unframed .nil, .inl rfl⟩
  | broken => exact ⟨_, takes_of_unframed .nil, .inr ⟨rfl, .inl ⟨_, rfl⟩⟩⟩
  | oversized => exact ⟨_, takes_of_unframed (.singleton rfl), .inr ⟨rfl, .inl ⟨_, rfl⟩⟩⟩
  | handled hcut hhandling => exact taken hcut hhandling (.inl rfl)
  | failed hcut hhandling => exact taken hcut hhandling (.inr ⟨rfl, .inl ⟨_, rfl⟩⟩)

/-- **A step of a dispatch takes at most the next frame**, and no call of the handler
changes the bytes that follow it. -/
theorem Dispatching.carries {running : Bool} (h : Dispatching running worker s next es t) :
    worker.Carries es next := by
  cases h with
  | cut herrand hcut => exact hcut.carries herrand
  | delivered herrand _ hcalls =>
    have hquiet : Without Event.isFrame _ := hcalls.path.outside.unacted.unframed
    exact ⟨⟨_, takes_of_unframed (.cons rfl hquiet), .inl rfl⟩, fun _ => rfl,
      fun hgives => absurd hgives (not_givesUp herrand (by simp))⟩
  | gaveUp _ _ _ hdrop =>
    have hquiet : Without Event.isFrame _ := hdrop.outside.unacted.unframed
    exact ⟨⟨_, takes_of_unframed (.cons rfl hquiet), .inl rfl⟩, fun _ => rfl, fun _ => .inr rfl⟩
  | stale =>
    exact ⟨⟨_, takes_of_unframed (.singleton rfl), .inl rfl⟩, fun _ => rfl, fun _ => .inr rfl⟩

/-- A worker that ends takes frames off the bytes held up to its end, and holds nothing
then. -/
theorem Finishing.carries (h : Finishing worker s es t) : worker.Carries es {} := by
  induction h with
  | done =>
    exact (takes_of_unframed .nil).ended
  | step _ hdispatch hfinish ih =>
    have hcarries := hdispatch.carries
    cases hfinish with
    | done =>
      obtain ⟨left, htakes, -⟩ := hcarries.takes
      rw [List.append_nil]
      exact htakes.ended
    | step hmore hnext hrest => exact hcarries.trans hmore ih

end Worker

namespace Client

variable {ω : Type} {client next : Client ω} {move : Move ω} {es : List Event}

/-- **Calls take nothing and change nothing of what is to be dispatched**, nor do time and
the environment. -/
theorem Stepping.outside (hs : client.Sound) (proceed : move ≠ .proceed)
    (disconnect : move ≠ .disconnect) (h : Stepping client move es next) :
    Session.Path (Session.Doing.isOutside ·) client.session es next.session ∧
      client.engine.Alike next.engine := by
  have interrupted := alike_map Worker.alike_interrupted client.worker
  cases h with
  | connected hconnect =>
    refine ⟨hconnect.path, ?_⟩
    cases hconnect with
    | unconnected => exact interrupted
    | serviced => exact interrupted
    | starting _ alone hstart =>
      cases hstart with
      | started =>
        rw [engine_of_none (hs.unjoinable alone)]
        exact ⟨rfl, rfl, rfl⟩
      | failed => exact interrupted
  | answered _ hcall => exact ⟨hcall.path.outside, interrupted⟩
  | disconnected => exact absurd rfl disconnect
  | moved => exact absurd rfl proceed
  | ended => exact absurd rfl proceed
  | idle => exact absurd rfl proceed
  | waited ms hdid =>
    exact ⟨.single rfl (.tuned _ hdid), alike_map (Worker.alike_rested ms) client.worker⟩
  | became _ hdid => exact ⟨.single rfl (.tuned _ hdid), rfl, rfl, rfl⟩

/-- Telling that the worker has stopped, and joining its task, takes no frame. -/
theorem unframed_end : Without Event.isFrame [.notice .workerStopped, .join] :=
  .cons rfl (.singleton rfl)

/-- **What is done during a dispatch takes frames off the bytes held, and nothing
else.**  At most the next frame is taken in a step, and a worker that is joined takes
what is left in one move. -/
theorem Stepping.carries (hs : client.Sound) (busy : client.engine.errand ≠ .pass)
    (h : Stepping client move es next) : client.engine.Carries es next.engine := by
  -- A dispatch goes on where the worker moves and where it is joined.
  by_cases hproceed : move = .proceed
  · subst hproceed
    cases h with
    | moved hworker _ hmove =>
      rw [engine_of_worker hworker] at busy ⊢
      cases hmove with
      | received hphase => exact absurd (hs.receiving _ hworker hphase).1 busy
      | woke hphase => exact absurd (hs.sleeping _ hworker _ _ hphase) busy
      | passed _ hidle => exact absurd hidle busy
      | dispatched _ _ hdispatch => exact hdispatch.carries
    | ended hrun =>
      rw [engine_of_none (hs.stopped hrun)] at busy
      exact absurd rfl busy
    | idle hnone =>
      rw [engine_of_none hnone] at busy
      exact absurd rfl busy
  · by_cases hdisconnect : move = .disconnect
    · subst hdisconnect
      cases h with
      | disconnected hleave =>
        cases hleave with
        | alone _ alone =>
          rw [engine_of_none (hs.unjoinable alone)] at busy
          exact absurd rfl busy
        | joined hleave _ hend =>
          cases hworker : client.worker with
          | none =>
            rw [engine_of_none hworker] at busy
            exact absurd rfl busy
          | some worker =>
            rw [hworker] at hend
            rw [engine_of_worker hworker]
            cases hend with
            | some hfinish =>
              obtain ⟨left, htakes, -⟩ := hfinish.carries.takes
              exact (htakes.between hleave.outside.unacted.unframed unframed_end).ended
    · obtain ⟨hpath, halike⟩ := h.outside hs hproceed hdisconnect
      exact halike.carries hpath.unacted.unframed

variable [Environment ω]

/-- Each of the moves is made while a dispatch goes on. -/
def Dispatches (client : Client ω) (moves : List (Move ω)) : Prop :=
  ∀ before move after, moves = before ++ move :: after →
    (client.run before).engine.errand ≠ .pass

/-- So a dispatch, whatever is done in the meantime, takes frames off the bytes held. -/
theorem run_carries {moves : List (Move ω)} (hs : client.Sound) (h : client.Dispatches moves) :
    client.engine.Carries (client.added moves) (client.run moves).engine := by
  induction moves generalizing client with
  | nil =>
    rw [added_nil]
    exact Worker.Alike.carries ⟨rfl, rfl, rfl⟩ .nil
  | cons move moves ih =>
    obtain ⟨es, hes⟩ := stepping_step client move
    have hfirst := hes.carries hs (h [] move moves rfl)
    have hrest : (client.step move).Dispatches moves := by
      rintro before last after rfl
      exact h (move :: before) last after rfl
    rw [added_cons hes]
    have hlater := ih (hes.sound hs) hrest
    cases moves with
    | nil =>
      rw [added_nil, List.append_nil]
      exact hfirst
    | cons second moves => exact hfirst.trans (hrest [] second moves rfl) hlater

end Client
end Mqtt
