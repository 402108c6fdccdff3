/-
# Worlds behind a handshake

What secures connections is a stack of its own, put on an environment that does the rest
(`Layered`).  A stack that accepts every connection and hands it through leaves one trace
of itself: each connection that opens is followed by its handshake (`secured`).  A stack
that refuses every connection lets none through, whatever it does about it
(`refused_of_dial`).
-/
import Mqtt.Connector
import Mqtt.Proofs.World.Coupled

namespace Mqtt

open Mqtt.Action

/-! ### Stacks -/

/-- How connections are secured: for a name, with given settings. -/
abbrev Stack (ω : Type) := String → TlsSettings → ω → Answer ω (Except String Unit)

/-- An environment whose connections are secured by a stack. -/
def Layered {ω : Type} (_ : Stack ω) : Type := ω

/-- The environment behind a stack: all is done as below, but for securing connections,
which is up to the stack. -/
instance {ω : Type} [below : Environment ω] (stack : Stack ω) : Environment (Layered stack) :=
  { below with secure := stack }

/-- Every connection is accepted and handed through as it is. -/
def Stack.accepting (ω : Type) : Stack ω := fun _ _ environment => ⟨.ok (), 0, environment⟩

/-- Every connection is refused, for some reason and after some time. -/
def Stack.refusing {ω : Type} (refusal : String → TlsSettings → ω → Answer ω String) : Stack ω :=
  fun name settings environment =>
    let answer := refusal name settings environment
    ⟨.error answer.value, answer.took, answer.next⟩

/-- The environment behind a stack that accepts every connection. -/
abbrev Accepting (ω : Type) : Type := Layered (Stack.accepting ω)

/-- The environment behind a stack that refuses every connection. -/
abbrev Refusing {ω : Type} (refusal : String → TlsSettings → ω → Answer ω String) : Type :=
  Layered (Stack.refusing refusal)

/-! ### Events -/

/-- The event is more than an entry in the log. -/
def Event.isWork : Event → Bool
  | .notice _ => false
  | _ => true

/-- What was done, without what was told the log. -/
def works (events : List Event) : List Event :=
  events.filter (·.isWork)

/-- What was done in two stretches is what was done in each, without the log. -/
@[simp] theorem works_append (es fs : List Event) : works (es ++ fs) = works es ++ works fs :=
  List.filter_append es fs

/-- Leaving out the log leaves out no opening. -/
@[simp] theorem openings_works (events : List Event) :
    openings (works events) = openings events := by
  have hwork : ∀ event : Event, event.isOpening = true → event.isWork = true := by
    intro event hopening
    cases event <;> first | rfl | cases hopening
  rw [openings, works, List.countP_filter]
  refine congrArg (List.countP · events) (funext fun event => ?_)
  cases hopening : event.isOpening with
  | true => simp [hwork event hopening]
  | false => rfl

/-- What is done if each connection that opens is secured at once, `n` having been opened
before. -/
def secured (name : String) (settings : TlsSettings) : Nat → List Event → List Event
  | _, [] => []
  | n, event :: events =>
    if event.isOpening then
      event :: .secure (n + 1) name settings :: secured name settings (n + 1) events
    else event :: secured name settings n events

/-- Handshakes are put in stretch by stretch.  The second goes on counting connections
where the first stopped, since a handshake names the connection it secures. -/
theorem secured_append (name : String) (settings : TlsSettings) (n : Nat) (es fs : List Event) :
    secured name settings n (es ++ fs) =
      secured name settings n es ++ secured name settings (n + openings es) fs := by
  induction es generalizing n with
  | nil => rfl
  | cons event es ih =>
    simp only [List.cons_append, secured, openings_cons]
    cases event.isOpening with
    | true => simp [ih, Nat.add_assoc, Nat.add_comm 1]
    | false => simp [ih]

/-- What opens no connection stays as it is. -/
theorem secured_of_closed {event : Event} (closed : event.isOpening = false) (name : String)
    (settings : TlsSettings) (n : Nat) :
    secured name settings n (works [event]) = works [event] := by
  cases hwork : event.isWork with
  | true => simp [works, hwork, secured, closed]
  | false => simp [works, hwork, secured]

namespace World

variable {ω ε ε' α : Type}

/-! ### The same with handshakes -/

/-- The second world has come from the same start as the first, by the same work and a
handshake after each connection that opened. -/
structure Secured (name : String) (settings : TlsSettings) (start w w' : World ω) : Prop where
  environment : w'.environment = w.environment
  clock : w'.clock = w.clock
  opened : w'.opened = w.opened
  work : ∃ es fs, start.Ran es w ∧ start.Ran fs w' ∧
    works fs = secured name settings start.opened (works es)

namespace Secured

variable {name : String} {settings : TlsSettings} {start w w' u u' : World ω} {es fs : List Event}

/-- A world is secured against itself as long as nothing was done since the start. -/
theorem refl (name : String) (settings : TlsSettings) (start : World ω) :
    Secured name settings start start start :=
  ⟨rfl, rfl, rfl, [], [], .refl _, .refl _, rfl⟩

/-- Both worlds go on alike. -/
theorem trans (h : Secured name settings start w w') (environment : u'.environment = u.environment)
    (clock : u'.clock = u.clock) (opened : u'.opened = u.opened) (hu : w.Ran es u)
    (hu' : w'.Ran fs u') (work : works fs = secured name settings w.opened (works es)) :
    Secured name settings start u u' := by
  obtain ⟨es', fs', hw, hw', hwork⟩ := h.work
  refine ⟨environment, clock, opened, _, _, hw.trans hu, hw'.trans hu', ?_⟩
  rw [works_append, works_append, hwork, work, secured_append, openings_works, hw.opened]

/-- **Only a connection that opens can tell them apart.**  Nothing else they do adds a
handshake to the log. -/
theorem coupling : Coupling (Secured name settings start) where
  environment h := h.environment
  record closed w w' h :=
    h.trans h.environment h.clock h.opened ((Ran.refl w).record closed)
      ((Ran.refl w').record closed) (secured_of_closed closed _ _ _).symm
  wait ms h := by
    obtain ⟨es, fs, hw, hw', hwork⟩ := h.work
    refine ⟨h.environment, congrArg (· + ms) h.clock, h.opened, es, fs, ?_, ?_, hwork⟩
    · exact ⟨hw.grown, hw.opened⟩
    · exact ⟨hw'.grown, hw'.opened⟩
  become environment h := by
    obtain ⟨es, fs, hw, hw', hwork⟩ := h.work
    refine ⟨rfl, h.clock, h.opened, es, fs, ?_, ?_, hwork⟩
    · exact ⟨hw.grown, hw.opened⟩
    · exact ⟨hw'.grown, hw'.opened⟩

end Secured

/-! ### Opening a connection -/

/-- Where an action succeeds there is nothing to tell, and nothing is told. -/
theorem orNotice_of_ok {action : Action ε (World ω) α} {told : ε → Notice} {fault : ε'} {a : α}
    {w u : World ω} (h : action w = .ok a u) : orNotice action told fault w = .ok a u := by
  rw [orNotice, bind_of_ok (attempt_of_ok h)]
  rfl

/-- Where an action fails, the log is told why, and the failure goes on under its other
name. -/
theorem orNotice_of_error {action : Action ε (World ω) α} {told : ε → Notice} {fault : ε'} {e : ε}
    {w u : World ω} (h : action w = .error e u) :
    orNotice action told fault w =
      .error fault { u with history := ⟨u.clock, .notice (told e)⟩ :: u.history } := by
  rw [orNotice, bind_of_ok (attempt_of_error h)]
  rfl

/-- What a question comes to, written out: the answer's value or failure, the environment
after it, the clock moved on, and the event in the history. -/
theorem demand_apply (question : ω → Answer ω (Except ε α)) (event : Except ε α → Event)
    (w : World ω) :
    (demand question event : Action ε (World ω) α) w = ofExcept (question w.environment).value
      { w with
        environment := (question w.environment).next
        clock := w.clock + (question w.environment).took
        history := ⟨w.clock, event (question w.environment).value⟩ :: w.history } := rfl

section

variable [Environment ω] {host : String} {tcpPort : UInt16} {timeout : UInt32} {w : World ω}

/-- The world in which a connection has been asked for. -/
def asked (host : String) (tcpPort : UInt16) (timeout : UInt32) (w : World ω) : World ω :=
  let answer := Environment.connect host tcpPort timeout w.environment
  { w with
    environment := answer.next
    clock := w.clock + answer.took
    history := ⟨w.clock, .connect host tcpPort timeout answer.value⟩ :: w.history }

/-- Asked for, a connection opens. -/
theorem ran_asked_of_ok
    (h : (Environment.connect host tcpPort timeout w.environment).value = .ok ()) :
    w.Ran [.connect host tcpPort timeout (.ok ())]
      { w.asked host tcpPort timeout with opened := w.opened + 1 } :=
  ⟨⟨[⟨w.clock, _⟩], by rw [asked, h]; rfl, rfl⟩, rfl⟩

/-- Asked for, a connection is refused. -/
theorem ran_asked_of_error {fault : NetFault}
    (h : (Environment.connect host tcpPort timeout w.environment).value = .error fault) :
    w.Ran [.connect host tcpPort timeout (.error fault)] (w.asked host tcpPort timeout) :=
  ran_of_history rfl (by rw [asked, h]) rfl

/-- Where the environment lets a connection open, it gets the next number and is counted. -/
theorem connect_of_ok
    (h : (Environment.connect host tcpPort timeout w.environment).value = .ok ()) :
    (connect host tcpPort timeout : Action NetFault (World ω) Nat) w =
      .ok (w.opened + 1)
        { w.asked host tcpPort timeout with opened := w.opened + 1 } := by
  rw [connect, bind_of_ok (a := ()) (by rw [demand_apply, h]; rfl)]
  simp only [asked, h]
  rfl

/-- Where the environment lets none open, the question was asked and no connection is
counted. -/
theorem connect_of_error {fault : NetFault}
    (h : (Environment.connect host tcpPort timeout w.environment).value = .error fault) :
    (connect host tcpPort timeout : Action NetFault (World ω) Nat) w =
      .error fault (w.asked host tcpPort timeout) := by
  rw [connect, bind_of_error (e := fault) (by rw [demand_apply, h]; rfl)]
  simp only [asked, h]

/-- A stack that accepts hands the connection through at once. -/
theorem secure_accepting (connection : Nat) (name : String) (settings : TlsSettings)
    (w : World (Accepting ω)) :
    (secure connection name settings : Action String _ Unit) w =
      .ok () { w with history := ⟨w.clock, .secure connection name settings⟩ :: w.history } := by
  rw [secure, bind_of_ok (ask_apply _ _ w)]
  show EStateM.Result.ok () { w with clock := w.clock + 0, history := _ } = _
  rw [UInt32.add_zero]

/-- A stack that refuses does so in every world. -/
theorem refused_of_secure {refusal : String → TlsSettings → ω → Answer ω String}
    {connection : Nat} {name : String} {settings : TlsSettings}
    {w w' : World (Refusing refusal)} {r : Except String Unit}
    (h : Yields (secure connection name settings) w r w') : ∃ reason, r = .error reason := by
  rw [secure, yields_congr (bind_of_ok (ask_apply _ _ w))] at h
  obtain ⟨_, _, -, h⟩ := yields_attempt_bind.1 h
  exact ⟨_, (yields_throw.1 h).1⟩

end

end World

namespace Connector

open World

variable {ω : Type} [Environment ω] {host : String} {tcpPort : UInt16} {timeout : UInt32}
  {settings : TlsSettings}

/-- **Where a connection opens, an accepting stack lets it through.**  It has the number
that it has without handshakes, and all that is added is the event of its handshake, which
takes no time. -/
theorem dial_of_ok {w : World (Accepting ω)}
    (h : (Environment.connect host tcpPort timeout w.environment).value = .ok ()) :
    (dial (.tls settings) host tcpPort timeout : Action NetFault _ Nat) w =
      .ok (w.opened + 1) { w.asked host tcpPort timeout with
        opened := w.opened + 1
        history := ⟨(w.asked host tcpPort timeout).clock,
          .secure (w.opened + 1) (settings.nameFor host) settings⟩ ::
            (w.asked host tcpPort timeout).history } := by
  rw [dial]
  rw [bind_of_ok (orNotice_of_ok (connect_of_ok h)),
    bind_of_ok (orNotice_of_ok (secure_accepting _ _ _ _))]
  rfl

/-- Where no connection opens, no handshake is tried; the log is told, and the attempt
counts as refused. -/
theorem dial_of_error {w : World ω} {fault : NetFault}
    (h : (Environment.connect host tcpPort timeout w.environment).value = .error fault) :
    (dial (.tls settings) host tcpPort timeout : Action NetFault _ Nat) w =
      .error .connectionRefused { w.asked host tcpPort timeout with
        history := ⟨(w.asked host tcpPort timeout).clock,
          .notice (.tlsDialFailed host tcpPort fault)⟩ ::
            (w.asked host tcpPort timeout).history } := by
  rw [dial]
  rw [bind_of_error (orNotice_of_error (connect_of_error h))]

/-- **Behind a stack that accepts, opening a connection goes as it does without.** -/
theorem agree_dial {start w w' : World (Accepting ω)}
    (h : World.Secured (settings.nameFor host) settings start w w') :
    Agree (World.Secured (settings.nameFor host) settings start) (· = ·)
      (orNotice (dial .plain host tcpPort timeout) (.dialFailed host tcpPort) Fault.connectFailed) w
      (orNotice (dial (.tls settings) host tcpPort timeout) (.dialFailed host tcpPort)
        Fault.connectFailed) w' := by
  -- The environments are the same, so both connections open or neither does.
  have hasked : w'.environment = w.environment := h.environment
  have hclock : w'.clock = w.clock := h.clock
  have hnext : (w'.asked host tcpPort timeout).environment =
        (w.asked host tcpPort timeout).environment ∧
      (w'.asked host tcpPort timeout).clock = (w.asked host tcpPort timeout).clock := by
    rw [asked, asked, hasked, hclock]
    exact ⟨rfl, rfl⟩
  cases hresult : (Environment.connect host tcpPort timeout w.environment).value with
  | ok a =>
    have hresult' : (Environment.connect host tcpPort timeout w'.environment).value = .ok () :=
      hasked ▸ hresult
    refine agree_of_ok (orNotice_of_ok (connect_of_ok hresult))
      (orNotice_of_ok (dial_of_ok hresult')) (congrArg (· + 1) h.opened.symm) ?_
    refine h.trans hnext.1 hnext.2 (congrArg (· + 1) h.opened) (ran_asked_of_ok hresult)
      ((ran_asked_of_ok hresult').record rfl) ?_
    rw [h.opened]
    rfl
  | error fault =>
    have hresult' : (Environment.connect host tcpPort timeout w'.environment).value =
        .error fault := hasked ▸ hresult
    refine agree_of_error (orNotice_of_error (connect_of_error hresult))
      (orNotice_of_error (dial_of_error hresult')) ?_
    exact h.trans hnext.1 hnext.2 h.opened ((ran_asked_of_error hresult).record rfl)
      (((ran_asked_of_error hresult').record rfl).record rfl) rfl

/-- Behind a stack that refuses, dialing fails: a connection that opens does not get
through its handshake. -/
theorem refused_of_dial {refusal : String → TlsSettings → ω → Answer ω String}
    {w w' : World (Refusing refusal)} {r : Except NetFault Nat}
    (h : Yields (dial (.tls settings) host tcpPort timeout) w r w') :
    ∃ fault, r = .error fault := by
  rw [dial] at h
  rcases yields_bind.1 h with ⟨fault, -, hr⟩ | ⟨connection, u, -, h⟩
  · exact ⟨fault, hr⟩
  · rcases yields_bind.1 h with ⟨fault, -, hr⟩ | ⟨_, v, hs, -⟩
    · exact ⟨fault, hr⟩
    · rcases ran_orNotice hs with ⟨_, hsecure, -⟩ | ⟨_, _, -, -, he⟩
      · obtain ⟨_, he⟩ := refused_of_secure hsecure
        cases he
      · cases he

end Connector
end Mqtt
