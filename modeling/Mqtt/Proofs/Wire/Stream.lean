/-
# Streams of frames

What a run of bytes is, frame by frame, from its start: `parseFrames` gives the
packets of the frames that are all there, and how the bytes end, inside a frame or
with one that is broken.  A header announces what it announces however many bytes
follow it, so parsing can stop anywhere and go on when more bytes have come
(`parseFrames_append`).

| the next frame | then |
| --- | --- |
| is not all there | `unfinished`, with its bytes |
| has no header, or a packet that cannot be read, or is larger than 1024 bytes | `broken` |
| is all there | its packet, and on with what follows it |
-/
import Mqtt.Wire.Cut
import Mqtt.Wire.Inbound

namespace Mqtt

namespace Length

/-- A length that was read, or could not be, does not depend on what follows. -/
theorem decodePlaces_append {most : Nat} {bytes : List UInt8}
    (h : decodePlaces most bytes ≠ .ok none) (more : List UInt8) :
    decodePlaces most (bytes ++ more) = decodePlaces most bytes := by
  induction most generalizing bytes with
  | zero => rfl
  | succ most ih =>
    cases bytes with
    | nil => exact absurd rfl h
    | cons b bytes =>
      simp only [decodePlaces, List.cons_append] at h ⊢
      by_cases hlast : b < 128
      · rw [if_pos hlast, if_pos hlast]
      · rw [if_neg hlast] at h
        rw [if_neg hlast, if_neg hlast, ih]
        rintro hnone
        rw [hnone] at h
        exact h rfl

/-- A length that was read depends on no more than the bytes that it took. -/
theorem decodePlaces_take {most value used count : Nat} {bytes : List UInt8}
    (h : decodePlaces most bytes = .ok (some (value, used))) (enough : used ≤ count) :
    decodePlaces most (bytes.take count) = .ok (some (value, used)) := by
  induction most generalizing bytes value used count with
  | zero => simp [decodePlaces] at h
  | succ most ih =>
    have hpos := one_le_used h
    obtain ⟨count, rfl⟩ : ∃ n, count = n + 1 := ⟨count - 1, by omega⟩
    cases bytes with
    | nil => simp [decodePlaces] at h
    | cons b bytes =>
      simp only [decodePlaces, List.take_succ_cons] at h ⊢
      by_cases hlast : b < 128
      · rw [if_pos hlast] at h ⊢
        exact h
      · rw [if_neg hlast] at h ⊢
        obtain ⟨⟨before, taken⟩, hread, hvalue⟩ := map_eq_some_iff.1 h
        cases hvalue
        exact map_eq_some_iff.2 ⟨_, ih hread (Nat.le_of_succ_le_succ enough), rfl⟩

/-- **A length stays open exactly where every byte is marked and there is room for
more.**  A byte that is not marked would end it, and so would the last place. -/
theorem decodePlaces_eq_none_iff {most : Nat} {bytes : List UInt8} :
    decodePlaces most bytes = .ok none ↔ bytes.length < most ∧ ∀ b ∈ bytes, 128 ≤ b := by
  induction most generalizing bytes with
  | zero => simp [decodePlaces]
  | succ most ih =>
    cases bytes with
    | nil => simp [decodePlaces]
    | cons b bytes =>
      rw [decodePlaces, List.length_cons, Nat.add_lt_add_iff_right, List.forall_mem_cons]
      by_cases hlast : b < 128
      · have hunmarked := UInt8.not_le.2 hlast
        simp [hlast, hunmarked]
      · have hmarked := UInt8.not_lt.1 hlast
        rw [if_neg hlast, map_eq_none_iff, ih]
        simp [hmarked]

end Length

namespace Header

variable {bytes : List UInt8} {header : Header}

/-- A header has at least two bytes, the first byte of the frame and one place of its
length. -/
theorem two_le_size (h : parse bytes = .ok (some header)) : 2 ≤ header.size := by
  obtain ⟨first, rest, kind, bodySize, used, rfl, -, hlength, rfl⟩ := parse_eq_some_iff.1 h
  have hpos := Length.one_le_used hlength
  show 2 ≤ 1 + used
  omega

/-- What the first bytes announce does not depend on what follows. -/
theorem parse_append (h : parse bytes ≠ .ok none) (more : List UInt8) :
    parse (bytes ++ more) = parse bytes := by
  cases bytes with
  | nil => exact absurd rfl h
  | cons first bytes =>
    simp only [parse, List.cons_append] at h ⊢
    cases hkind : Kind.ofFirstByte? first with
    | none => rfl
    | some kind =>
      simp only [hkind] at h ⊢
      rw [Length.decode, Length.decode, Length.decodePlaces_append]
      rintro hnone
      rw [Length.decode, hnone] at h
      exact h rfl

/-- A header that was read depends on no more than its own bytes. -/
theorem parse_take {count : Nat} (h : parse bytes = .ok (some header))
    (enough : header.size ≤ count) : parse (bytes.take count) = .ok (some header) := by
  obtain ⟨first, rest, kind, bodySize, used, rfl, named, hlength, rfl⟩ := parse_eq_some_iff.1 h
  have hused : 1 + used ≤ count := enough
  obtain ⟨count, rfl⟩ : ∃ n, count = n + 1 := ⟨count - 1, by omega⟩
  exact parse_eq_some_iff.2 ⟨first, rest.take count, kind, bodySize, used, rfl, named,
    Length.decodePlaces_take hlength (by omega), rfl⟩

/-- **A header stays open exactly where nothing in it is wrong yet and its length is open.** -/
theorem parse_eq_none_iff :
    parse bytes = .ok none ↔ bytes.length ≤ 4 ∧
      (∀ first ∈ bytes.head?, ∃ kind, Kind.ofFirstByte? first = some kind) ∧
        ∀ b ∈ bytes.tail, 128 ≤ b := by
  cases bytes with
  | nil => simp [parse]
  | cons first bytes =>
    rw [parse, List.length_cons, List.head?_cons, List.tail_cons]
    cases hkind : Kind.ofFirstByte? first with
    | none => simp [hkind]
    | some kind =>
      have hnamed : ∀ b ∈ some first, ∃ kind, Kind.ofFirstByte? b = some kind := by
        rintro b ⟨⟩
        exact ⟨kind, hkind⟩
      refine (map_eq_none_iff.trans Length.decodePlaces_eq_none_iff).trans ?_
      rw [Nat.lt_iff_add_one_le]
      exact and_congr_right fun _ => (and_iff_right hnamed).symm

end Header

/-- How a run of bytes ends. -/
inductive Ending where
  /-- Before its next frame is all there. -/
  | unfinished (rest : List UInt8)
  /-- With a frame that is broken. -/
  | broken
  deriving DecidableEq

/-- What a run of bytes is. -/
structure Parsed where
  packets : List Inbound
  ending : Ending
  deriving DecidableEq

/-- The packets of a run of bytes, frame by frame, and how it ends. -/
def parseFrames (bytes : List UInt8) : Parsed :=
  match _hparse : Header.parse bytes with
  | .error _ => ⟨[], .broken⟩
  | .ok none => ⟨[], .unfinished bytes⟩
  | .ok (some header) =>
    if 1024 < header.frameSize then ⟨[], .broken⟩
    else if bytes.length < header.frameSize then ⟨[], .unfinished bytes⟩
    else
      match Inbound.decode (bytes.take header.frameSize) with
      | .error _ => ⟨[], .broken⟩
      | .ok packet =>
        let more := parseFrames (bytes.drop header.frameSize)
        ⟨packet :: more.packets, more.ending⟩
termination_by bytes.length
decreasing_by
  have hsize := Header.two_le_size _hparse
  rw [List.length_drop, Header.frameSize] at *
  omega

/-- What parsing bytes that end inside a frame comes to when more bytes come. -/
def Parsed.resume (parsed : Parsed) (more : List UInt8) : Parsed :=
  match parsed.ending with
  | .unfinished rest =>
    ⟨parsed.packets ++ (parseFrames (rest ++ more)).packets, (parseFrames (rest ++ more)).ending⟩
  | .broken => parsed

/-! ### The next frame -/

section

variable {bytes frame rest : List UInt8} {header : Header}

/-- Bytes that end inside a header have no packet yet and are kept as they are. -/
theorem parseFrames_of_none (h : Header.parse bytes = .ok none) :
    parseFrames bytes = ⟨[], .unfinished bytes⟩ := by
  unfold parseFrames
  split <;> simp_all

/-- Bytes whose header is wrong have no packet, and none comes of them later. -/
theorem parseFrames_of_error {fault : Fault} (h : Header.parse bytes = .error fault) :
    parseFrames bytes = ⟨[], .broken⟩ := by
  unfold parseFrames
  split <;> simp_all

/-- A frame that is announced as larger than 1024 bytes is broken as soon as its header is
there. -/
theorem parseFrames_of_oversized (h : Header.parse bytes = .ok (some header))
    (large : 1024 < header.frameSize) : parseFrames bytes = ⟨[], .broken⟩ := by
  unfold parseFrames
  split <;> simp_all

/-- A frame that is announced and not all there has no packet yet; its bytes are kept,
header included. -/
theorem parseFrames_of_short (h : Header.parse bytes = .ok (some header))
    (fits : header.frameSize ≤ 1024) (short : bytes.length < header.frameSize) :
    parseFrames bytes = ⟨[], .unfinished bytes⟩ := by
  unfold parseFrames
  split
  · simp_all
  · simp_all
  · simp_all

/-- A frame that is all there but has no packet in it is broken, whatever follows it. -/
theorem parseFrames_of_undecodable {fault : Fault} (h : Header.parse bytes = .ok (some header))
    (fits : header.frameSize ≤ 1024) (enough : header.frameSize ≤ bytes.length)
    (hdecode : Inbound.decode (bytes.take header.frameSize) = .error fault) :
    parseFrames bytes = ⟨[], .broken⟩ := by
  unfold parseFrames
  split
  · simp_all
  · simp_all
  · simp_all

/-- A frame that is all there gives its packet, and what follows it is parsed as if
nothing had come before. -/
theorem parseFrames_of_packet {packet : Inbound} (h : Header.parse bytes = .ok (some header))
    (fits : header.frameSize ≤ 1024) (enough : header.frameSize ≤ bytes.length)
    (hdecode : Inbound.decode (bytes.take header.frameSize) = .ok packet) :
    parseFrames bytes =
      ⟨packet :: (parseFrames (bytes.drop header.frameSize)).packets,
        (parseFrames (bytes.drop header.frameSize)).ending⟩ := by
  rw [parseFrames]
  split
  · simp_all
  · simp_all
  · next found hfound =>
    rw [h, Except.ok.injEq, Option.some.injEq] at hfound
    subst hfound
    rw [if_neg (Nat.not_lt.2 fits), if_neg (Nat.not_lt.2 enough), hdecode]

/-- Bytes before their first frame is all there can be kept. -/
theorem parseFrames_of_unfinished (h : Cut.first 1024 bytes = .unfinished) :
    parseFrames bytes = ⟨[], .unfinished bytes⟩ ∧ bytes.length < 1024 := by
  unfold Cut.first at h
  split at h
  · cases h
  · next hnone =>
    have hshort := (Header.parse_eq_none_iff.1 hnone).1
    exact ⟨parseFrames_of_none hnone, by omega⟩
  · next header hsome =>
    split at h
    · cases h
    · next hfits =>
      have hfits : header.frameSize ≤ 1024 := Nat.not_lt.1 hfits
      have hsize := Header.two_le_size hsome
      have hpos : 0 < header.frameSize := by
        rw [Header.frameSize]
        omega
      split at h
      · cases h
      · next hshort =>
        have hshort : bytes.length < header.frameSize := by omega
        exact ⟨parseFrames_of_short hsome hfits hshort, by omega⟩

/-- Bytes found broken stay so when more come after them. -/
theorem parseFrames_of_broken {fault : Fault} (h : Cut.first 1024 bytes = .broken fault)
    (more : List UInt8) : parseFrames (bytes ++ more) = ⟨[], .broken⟩ := by
  unfold Cut.first at h
  split at h
  · next herror =>
    refine parseFrames_of_error (Eq.trans (Header.parse_append ?_ more) herror)
    simp [herror]
  · cases h
  · split at h
    · cases h
    · split at h <;> cases h

/-- Bytes found too large stay broken when more come after them: the header has said so
already. -/
theorem parseFrames_of_large {size : Nat} (h : Cut.first 1024 bytes = .oversized size)
    (more : List UInt8) : parseFrames (bytes ++ more) = ⟨[], .broken⟩ := by
  unfold Cut.first at h
  split at h
  · cases h
  · cases h
  · next header hsome =>
    split at h
    · next hlarge =>
      refine parseFrames_of_oversized (Eq.trans (Header.parse_append ?_ more) hsome) hlarge
      simp [hsome]
    · split at h <;> cases h

/-- A frame that is all there is read as one, whatever follows it. -/
theorem header_of_whole {split : bytes = frame ++ rest} {nonempty : frame ≠ []}
    (h : Cut.first 1024 bytes = .whole frame rest split nonempty) (more : List UInt8) :
    ∃ header, Header.parse (frame ++ more) = .ok (some header) ∧ header.frameSize = frame.length ∧
      frame.length ≤ 1024 := by
  unfold Cut.first at h
  split at h
  · cases h
  · cases h
  · next header hsome =>
    split at h
    · cases h
    · next hfits =>
      split at h
      · next henough =>
        obtain ⟨rfl, -⟩ := Cut.whole.inj h
        have hlength : (bytes.take header.frameSize).length = header.frameSize := by
          rw [List.length_take]
          omega
        have htake : Header.parse (bytes.take header.frameSize) = .ok (some header) :=
          Header.parse_take hsome (Nat.le_add_right ..)
        refine ⟨header, (Header.parse_append ?_ more).trans htake, hlength.symm, ?_⟩
        · simp [htake]
        · rw [hlength]
          exact Nat.not_lt.1 hfits
      · cases h

/-- **One frame cut, one packet more.**  Where the first frame was cut off and read, what
comes after it is parsed on its own, whether it was there when the frame was cut or came
later. -/
theorem parseFrames_of_whole {split : bytes = frame ++ rest} {nonempty : frame ≠ []}
    {packet : Inbound} (h : Cut.first 1024 bytes = .whole frame rest split nonempty)
    (hdecode : Inbound.decode frame = .ok packet) (more : List UInt8) :
    parseFrames (frame ++ more) =
      ⟨packet :: (parseFrames more).packets, (parseFrames more).ending⟩ := by
  obtain ⟨header, hparse, hsize, hfits⟩ := header_of_whole h more
  rw [parseFrames_of_packet hparse (by omega) (by simp [hsize])
    (by rw [hsize, List.take_left]; exact hdecode), hsize, List.drop_left]

/-- A first frame that cannot be read breaks the bytes, whatever comes after it. -/
theorem parseFrames_of_fault {split : bytes = frame ++ rest} {nonempty : frame ≠ []}
    {fault : Fault} (h : Cut.first 1024 bytes = .whole frame rest split nonempty)
    (hdecode : Inbound.decode frame = .error fault) (more : List UInt8) :
    parseFrames (frame ++ more) = ⟨[], .broken⟩ := by
  obtain ⟨header, hparse, hsize, hfits⟩ := header_of_whole h more
  exact parseFrames_of_undecodable hparse (by omega) (by simp [hsize])
    (by rw [hsize, List.take_left]; exact hdecode)

/-- **Parsing goes on where it stopped.**  Bytes that end inside a frame are parsed up to
it, and from it once more have come; those that end with a broken frame stay broken. -/
theorem parseFrames_append (bytes more : List UInt8) :
    parseFrames (bytes ++ more) = (parseFrames bytes).resume more := by
  -- On the number of bytes, of which each whole frame takes some.
  induction hlength : bytes.length using Nat.strongRecOn generalizing bytes with
  | ind length ih =>
    -- Bytes that are broken whatever follows are broken now, and stay so.
    have broken : (∀ more, parseFrames (bytes ++ more) = ⟨[], .broken⟩) →
        parseFrames (bytes ++ more) = (parseFrames bytes).resume more := by
      intro hbroken
      have hnow := hbroken []
      rw [List.append_nil] at hnow
      rw [hbroken, hnow]
      rfl
    cases hcut : Cut.first 1024 bytes with
    | unfinished =>
      rw [(parseFrames_of_unfinished hcut).1]
      rfl
    | broken fault => exact broken (parseFrames_of_broken hcut)
    | oversized size => exact broken (parseFrames_of_large hcut)
    | whole frame rest split nonempty =>
      cases hdecode : Inbound.decode frame with
      | error fault =>
        refine broken fun more => ?_
        rw [split, List.append_assoc]
        exact parseFrames_of_fault hcut hdecode _
      | ok packet =>
        have hless : rest.length < length := hlength ▸ Cut.length_rest_lt split nonempty
        rw [split, List.append_assoc, parseFrames_of_whole hcut hdecode,
          parseFrames_of_whole hcut hdecode, ih _ hless rest rfl]
        unfold Parsed.resume
        cases hending : (parseFrames rest).ending with
        | unfinished left => rfl
        | broken => simp [hending]

end

end Mqtt
