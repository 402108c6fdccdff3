/-
# What built settings ask for

Settings start from the defaults and are changed one after the other, in any order and
as often as wanted.  What comes out is told by the last change of each kind, and whether
anything comes out by the sizes of the texts alone (`build_of_fits`, `build_of_long`).
The user name and the password are of one kind: a change to a user name alone takes an
earlier password away, and there is never a password alone (`Reflects.connect_eq`).

The request that opens a session has bounded texts only, so it is bounded itself
(`size_connect_le`).

| part | bytes at most |
| --- | ---: |
| header | 3 |
| protocol, level, flags, keep-alive | 10 |
| client identifier, user name, password, each with its count | 198 |
-/
import Mathlib.Data.List.Induction
import Mathlib.Order.Lattice
import Mqtt.Proofs.Wire.Fit
import Mqtt.Settings

namespace Mqtt
namespace Setting

/-- The texts of a change. -/
def texts : Setting → List String
  | credentials userName password => userName :: password.toList
  | _ => []

/-- What a change says of the user name and the password. -/
@[simp] def credentials? : Setting → Option (String × Option String)
  | credentials userName password => some (userName, password)
  | _ => none

/-- What a change says of the longest silence. -/
@[simp] def keepAlive? : Setting → Option UInt16
  | keepAlive seconds => some seconds
  | _ => none

/-- What a change says of earlier sessions. -/
@[simp] def cleanSession? : Setting → Option Bool
  | cleanSession clean => some clean
  | _ => none

/-- What a change says of the time to connect. -/
@[simp] def connectTimeout? : Setting → Option UInt32
  | connectTimeout ms => some ms
  | _ => none

/-- What a change says of the time of one poll. -/
@[simp] def pollTimeout? : Setting → Option UInt32
  | pollTimeout ms => some ms
  | _ => none

/-- What a change says of the waits between attempts. -/
@[simp] def backoff? : Setting → Option Backoff
  | backoff schedule => some schedule
  | _ => none

/-- What a change says of the worker's task. -/
@[simp] def task? : Setting → Option TaskSettings
  | .task parameters => some parameters
  | _ => none

/-- What the last of the changes that say something of a part says. -/
def last {α : Type} (part : Setting → Option α) (changes : List Setting) : Option α :=
  (changes.filterMap part).getLast?

/-- The last change of some kind is the newest change, if it is of this kind, and
otherwise what it was before. -/
@[simp] theorem last_concat {α : Type} (part : Setting → Option α) (changes : List Setting)
    (change : Setting) : last part (changes ++ [change]) = (part change).or (last part changes) := by
  rw [last, List.filterMap_append, List.getLast?_append, last]
  cases hpart : part change with
  | none => rw [List.filterMap_cons_none hpart, List.filterMap_nil, List.getLast?_nil]
  | some a => rw [List.filterMap_cons_some hpart, List.filterMap_nil, List.getLast?_singleton]

end Setting

namespace Settings

open Setting

/-- The request that the changes ask for. -/
def asked (clientId : String) (changes : List Setting) : Connect where
  clientId
  userName := (last credentials? changes).map (·.1)
  password := (last credentials? changes).bind (·.2)
  keepAlive := (last keepAlive? changes).getD 60
  cleanSession := (last cleanSession? changes).getD true

/-- Every text is within its bound, also one that a later change replaces. -/
structure Fits (host clientId : String) (changes : List Setting) : Prop where
  host : host.utf8ByteSize ≤ hostLimit
  clientId : clientId.utf8ByteSize ≤ clientIdLimit
  changes : ∀ change ∈ changes, ∀ s ∈ change.texts, s.utf8ByteSize ≤ credentialLimit

/-- The settings are what the last change of each kind says, or the default. -/
structure Reflects (settings : Settings) (host : String) (tcpPort : UInt16) (clientId : String)
    (changes : List Setting) : Prop where
  host : settings.host.text = host
  tcpPort : settings.tcpPort = tcpPort
  clientId : settings.clientId.text = clientId
  credentials : settings.credentials.map (fun c => (c.userName.text, c.password.map (·.text))) =
    last credentials? changes
  keepAlive : settings.keepAlive = (last keepAlive? changes).getD 60
  cleanSession : settings.cleanSession = (last cleanSession? changes).getD true
  connectTimeout : settings.connectTimeout = (last connectTimeout? changes).getD 5000
  pollTimeout : settings.pollTimeout = max ((last pollTimeout? changes).getD 100) 1
  backoff : settings.backoff = (last backoff? changes).getD (.fixed 1000)
  task : settings.task = (last task? changes).getD {}

variable {host clientId : String} {tcpPort : UInt16} {settings : Settings}
  {changes : List Setting} {change : Setting}

/-! ### Building -/

/-- A text within its bound fits its place and is there unchanged. -/
theorem fit_of_le {limit : Nat} {text : String} (h : text.utf8ByteSize ≤ limit) :
    (fit text : Except Fault (BoundedText limit)) = .ok ⟨text, h⟩ := by
  rw [fit, BoundedText.of?, dif_pos h]

/-- A text beyond its bound does not fit, by however little it is too long; it is never
cut short. -/
theorem fit_of_lt {limit : Nat} {text : String} (h : limit < text.utf8ByteSize) :
    (fit text : Except Fault (BoundedText limit)) = .error .bufferTooSmall := by
  rw [fit, BoundedText.of?_eq_none_iff.2 h]

/-- Changes fit if those made before fit and the texts of the newest do. -/
theorem fits_concat : Fits host clientId (changes ++ [change]) ↔
    Fits host clientId changes ∧ ∀ s ∈ change.texts, s.utf8ByteSize ≤ credentialLimit := by
  constructor
  · intro fits
    obtain ⟨hchanges, hchange⟩ := List.forall_mem_append.1 fits.changes
    exact ⟨⟨fits.host, fits.clientId, hchanges⟩, hchange change List.mem_cons_self⟩
  · rintro ⟨fits, hchange⟩
    refine ⟨fits.host, fits.clientId, List.forall_mem_append.2 ⟨fits.changes, fun c hc => ?_⟩⟩
    rwa [List.mem_singleton.1 hc]

/-- Settings are built change by change, and after the first that fails no other is made. -/
theorem build_concat (host : String) (tcpPort : UInt16) (clientId : String)
    (changes : List Setting) (change : Setting) :
    build host tcpPort clientId (changes ++ [change]) =
      (build host tcpPort clientId changes).bind (·.set change) := by
  unfold build
  cases new host tcpPort clientId with
  | error fault => rfl
  | ok settings =>
    show (changes ++ [change]).foldlM set settings = (changes.foldlM set settings).bind (·.set change)
    rw [List.foldlM_append]
    cases changes.foldlM set settings with
    | error fault => rfl
    | ok settings =>
      show settings.set change >>= pure = settings.set change
      rw [bind_pure]

/-- The default settings reflect that no change was made. -/
theorem reflects_default (host : BoundedText hostLimit) (tcpPort : UInt16)
    (clientId : BoundedText clientIdLimit) :
    Reflects { host, tcpPort, clientId } host.text tcpPort clientId.text [] where
  host := rfl
  tcpPort := rfl
  clientId := rfl
  credentials := rfl
  keepAlive := rfl
  cleanSession := rfl
  connectTimeout := rfl
  pollTimeout := (by decide : (100 : UInt32) = max 100 1)
  backoff := rfl
  task := rfl

/-- The larger of a poll and one millisecond is one that settings can hold. -/
theorem one_le_max (ms : UInt32) : 1 ≤ max ms 1 := by
  rw [UInt32.le_iff_toNat_le, UInt32.toNat_max]
  exact Nat.le_max_right ..

/-- A poll is set to the wanted time, or to a millisecond where none at all is wanted.  It
is the one change that does not take over what it was given. -/
theorem set_pollTimeout (settings : Settings) (ms : UInt32) : settings.set (.pollTimeout ms) =
    .ok { settings with pollTimeout := max ms 1, one_le_pollTimeout := one_le_max ms } := by
  rw [Settings.set]
  split
  case isTrue hpos =>
    have hmax : max ms 1 = ms :=
      UInt32.toNat.inj (by rw [UInt32.toNat_max]; exact Nat.max_eq_left hpos)
    simp only [hmax]
  case isFalse hzero =>
    have hmax : max ms 1 = 1 :=
      UInt32.toNat.inj (by rw [UInt32.toNat_max]; exact Nat.max_eq_right (Nat.le_of_not_le hzero))
    simp only [hmax]

/-- Credentials whose texts fit are taken over as they are, in place of those there were. -/
theorem set_credentials (settings : Settings) (userName : BoundedText credentialLimit)
    (password : Option (BoundedText credentialLimit)) :
    settings.set (.credentials userName.text (password.map (·.text))) =
      .ok { settings with credentials := some ⟨userName, password⟩ } := by
  cases password with
  | none =>
    rw [Settings.set, fit_of_le userName.size_le]
    rfl
  | some text =>
    rw [Settings.set, fit_of_le userName.size_le]
    show (((fit text.text).map some).bind fun password => _) = _
    rw [fit_of_le text.size_le]
    rfl

/-- A change within its bound is made, and it tells its part of what comes out. -/
theorem Reflects.set (h : Reflects settings host tcpPort clientId changes)
    (fits : ∀ s ∈ change.texts, s.utf8ByteSize ≤ credentialLimit) :
    ∃ next, settings.set change = .ok next ∧
      Reflects next host tcpPort clientId (changes ++ [change]) := by
  obtain ⟨hhost, hport, hclient, hcredentials, hkeepAlive, hclean, hconnect, hpoll, hbackoff,
    htask⟩ := h
  cases change with
  | credentials userName password =>
    have huser : userName.utf8ByteSize ≤ credentialLimit := fits userName List.mem_cons_self
    obtain ⟨bounded, rfl⟩ : ∃ bounded : Option (BoundedText credentialLimit),
        password = bounded.map (·.text) := by
      cases password with
      | none => exact ⟨none, rfl⟩
      | some text => exact ⟨some ⟨text, fits text (by simp [texts])⟩, rfl⟩
    refine ⟨_, set_credentials settings ⟨userName, huser⟩ bounded, ?_⟩
    constructor <;> simp [*]
  | pollTimeout ms =>
    refine ⟨_, set_pollTimeout settings ms, ?_⟩
    constructor <;> simp [*]
  | _ =>
    refine ⟨_, rfl, ?_⟩
    constructor <;> simp [*]

/-- A change with a text that is too long is refused, and there are no changed settings
then. -/
theorem set_of_long (settings : Settings)
    (long : ¬∀ s ∈ change.texts, s.utf8ByteSize ≤ credentialLimit) :
    settings.set change = .error .bufferTooSmall := by
  cases change with
  | credentials userName password =>
    rcases Nat.lt_or_ge credentialLimit userName.utf8ByteSize with hlong | huser
    · rw [set, fit_of_lt hlong]
      rfl
    · cases password with
      | none => exact absurd (by simpa [texts] using huser) long
      | some text =>
        have hlong : credentialLimit < text.utf8ByteSize :=
          Nat.lt_of_not_le fun htext => long (by simp [texts, huser, htext])
        rw [set, fit_of_le huser]
        show (((fit text).map some).bind fun password => _) = _
        rw [fit_of_lt hlong]
        rfl
  | _ => exact absurd (by simp [texts]) long

/-- With every text within its bound, the settings are built, and each is what the last
change of its kind says. -/
theorem build_of_fits (tcpPort : UInt16) (fits : Fits host clientId changes) :
    ∃ settings, build host tcpPort clientId changes = .ok settings ∧
      Reflects settings host tcpPort clientId changes := by
  induction changes using List.reverseRecOn with
  | nil =>
    refine ⟨_, ?_, reflects_default ⟨host, fits.host⟩ tcpPort ⟨clientId, fits.clientId⟩⟩
    rw [build, new, fit_of_le fits.host, fit_of_le fits.clientId]
    rfl
  | append_singleton changes change ih =>
    obtain ⟨hchanges, hchange⟩ := fits_concat.1 fits
    obtain ⟨settings, hbuild, hreflects⟩ := ih hchanges
    obtain ⟨next, hset, hnext⟩ := hreflects.set hchange
    exact ⟨next, by rw [build_concat, hbuild]; exact hset, hnext⟩

/-- One text beyond its bound, even one that a later change would replace, and nothing is
built. -/
theorem build_of_long (tcpPort : UInt16) (long : ¬Fits host clientId changes) :
    build host tcpPort clientId changes = .error .bufferTooSmall := by
  induction changes using List.reverseRecOn with
  | nil =>
    rw [build, new]
    rcases Nat.lt_or_ge hostLimit host.utf8ByteSize with hlong | hhost
    · rw [fit_of_lt hlong]
      rfl
    · have hlong : clientIdLimit < clientId.utf8ByteSize :=
        Nat.lt_of_not_le fun hclient => long ⟨hhost, hclient, nofun⟩
      rw [fit_of_le hhost, fit_of_lt hlong]
      rfl
  | append_singleton changes change ih =>
    rw [build_concat]
    by_cases hchanges : Fits host clientId changes
    · obtain ⟨settings, hbuild, -⟩ := build_of_fits tcpPort hchanges
      rw [hbuild]
      exact set_of_long settings fun hchange => long (fits_concat.2 ⟨hchanges, hchange⟩)
    · rw [ih hchanges]
      rfl

/-- Settings that were built reflect the changes made, and the changes fit. -/
theorem reflects_of_build (h : build host tcpPort clientId changes = .ok settings) :
    Fits host clientId changes ∧ Reflects settings host tcpPort clientId changes := by
  by_cases fits : Fits host clientId changes
  · obtain ⟨built, hbuild, hreflects⟩ := build_of_fits tcpPort fits
    obtain rfl : built = settings := Except.ok.inj (hbuild.symm.trans h)
    exact ⟨fits, hreflects⟩
  · rw [build_of_long tcpPort fits] at h
    cases h

/-! ### The request -/

/-- The request is the one asked for. -/
theorem Reflects.connect_eq (h : Reflects settings host tcpPort clientId changes) :
    settings.connect = asked clientId changes := by
  rw [connect, asked, h.clientId, h.keepAlive, h.cleanSession, ← h.credentials]
  cases settings.credentials <;> rfl

/-- The texts of a request are those that were asked for, each within its bound. -/
theorem size_le_of_mem_texts (settings : Settings) {s : String}
    (h : s ∈ (Outbound.connect settings.connect).texts) : s.utf8ByteSize ≤ 64 := by
  rw [Outbound.texts, List.mem_cons, List.mem_append, Option.mem_toList, Option.mem_toList] at h
  rcases h with rfl | hs | hs
  · exact settings.clientId.size_le
  · obtain ⟨c, -, rfl⟩ := Option.map_eq_some_iff.1 hs
    exact c.userName.size_le
  · obtain ⟨c, -, hs⟩ := Option.bind_eq_some_iff.1 hs
    obtain ⟨password, -, rfl⟩ := Option.map_eq_some_iff.1 hs
    exact password.size_le

/-- A request to open a session has three texts at most: the client identifier, the user
name and the password. -/
theorem length_texts_le (request : Connect) : (Outbound.connect request).texts.length ≤ 3 := by
  obtain ⟨clientId, userName, password, keepAlive, cleanSession⟩ := request
  cases userName <;> cases password <;> simp [Outbound.texts]

/-- Texts of at most so many bytes make the body longer by that each, and by their counts. -/
theorem foldr_size_le {limit : Nat} {texts : List String}
    (h : ∀ s ∈ texts, s.utf8ByteSize ≤ limit) (start : Nat) :
    texts.foldr (fun s size => 2 + s.utf8ByteSize + size) start ≤
      (2 + limit) * texts.length + start := by
  induction texts with
  | nil => simp
  | cons s texts ih =>
    have hs := h s List.mem_cons_self
    have hrest := ih fun t ht => h t (List.mem_cons_of_mem _ ht)
    rw [List.foldr_cons, List.length_cons, Nat.mul_succ]
    omega

/-- The body of the request is at most 208 bytes, with each of its texts as long as it may
be. -/
theorem bodySize_connect_le (settings : Settings) :
    (Outbound.connect settings.connect).bodySize ≤ 208 := by
  have hlength := length_texts_le settings.connect
  have hsize := foldr_size_le (fun s => settings.size_le_of_mem_texts (s := s)) 10
  rw [Outbound.bodySize]
  omega

/-- The request that settings make can be written as a frame: each of its texts is short
enough for the two bytes that announce it. -/
theorem encodable_connect (settings : Settings) :
    (Outbound.connect settings.connect).Encodable where
  texts _ hs := Nat.le_trans (settings.size_le_of_mem_texts hs) (by decide)
  identified := nofun
  limit := Nat.le_trans settings.bodySize_connect_le (by decide)

/-- A request to open a session takes at most 211 bytes, whatever the settings are. -/
theorem size_connect_le (settings : Settings) :
    (Outbound.connect settings.connect).size ≤ 211 := by
  have hbody := settings.bodySize_connect_le
  have hlength : Length.size (Outbound.connect settings.connect).bodySize ≤ 2 := by
    rw [Length.size]
    split
    · decide
    · rw [if_pos (by omega)]
  simp only [Outbound.size, Outbound.header, Header.frameSize]
  omega

/-- Texts of 64 bytes each make a request of exactly that size. -/
example : (Outbound.connect (asked (String.ofList (List.replicate 64 'c'))
    [.credentials (String.ofList (List.replicate 64 'u'))
      (some (String.ofList (List.replicate 64 'p')))])).size = 211 := by
  decide +kernel

/-- A request to open a session fits every room that large, whatever is in it. -/
theorem exists_pack_connect (settings : Settings) :
    ∃ bytes : List UInt8, bytes.length ≤ 211 ∧
      ∀ room : List UInt8, 211 ≤ room.length →
        (Outbound.connect settings.connect).pack room.length = .ok bytes ∧
          (Outbound.connect settings.connect).putInto (Buffer.ofRoom room) =
            .ok ⟨bytes, room.drop bytes.length⟩ := by
  obtain ⟨bytes, hsize, -, hput⟩ := settings.encodable_connect.exists_bytes
  have hle : bytes.length ≤ 211 := hsize ▸ settings.size_connect_le
  have hfits : ∀ room : List UInt8, 211 ≤ room.length →
      (Outbound.connect settings.connect).putInto (Buffer.ofRoom room) =
        .ok ⟨bytes, room.drop bytes.length⟩ := fun room hroom => by
    rw [hput]
    exact Buffer.put_eq_ok_iff.2 ⟨Nat.le_trans hle hroom, rfl⟩
  refine ⟨bytes, hle, fun room hroom => ⟨?_, hfits room hroom⟩⟩
  rw [Outbound.pack_eq_putInto, Buffer.blank, hfits _ (by rwa [List.length_replicate])]
  rfl

end Settings
end Mqtt
