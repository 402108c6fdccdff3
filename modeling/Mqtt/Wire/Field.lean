/-
# Fields of a packet's body

A word is two bytes, the high one first.  A text is a word that counts the
bytes of its UTF-8 form, then those bytes, so it has at most 65535 of them.

Reading is beside writing: `takeWord` undoes a word and `takeText` undoes a
text, each giving back the bytes that follow.
-/

namespace Mqtt

/-- The UTF-8 form of a text. -/
def utf8 (s : String) : List UInt8 :=
  s.toByteArray.data.toList

/-- The text of which the bytes are the UTF-8 form, if they are one. -/
def ofUtf8? (bytes : List UInt8) : Option String :=
  String.fromUTF8? ⟨bytes.toArray⟩

/-- A text takes as many bytes on the wire as its UTF-8 form has; no terminator and no
padding is added. -/
theorem length_utf8 (s : String) : (utf8 s).length = s.utf8ByteSize := rfl

/-- The bytes of a text are read back as that text. -/
theorem ofUtf8?_utf8 (s : String) : ofUtf8? (utf8 s) = some s := by
  simp [ofUtf8?, utf8, String.fromUTF8?, String.fromUTF8, s.isValidUTF8]

/-- Bytes that are read as a text are the bytes of that text, so a text is read from one
sequence of bytes only. -/
theorem utf8_of_ofUtf8? {bytes : List UInt8} {s : String} (h : ofUtf8? bytes = some s) :
    utf8 s = bytes := by
  unfold ofUtf8? String.fromUTF8? at h
  split at h
  · obtain rfl := Option.some.inj h
    simp [utf8, String.fromUTF8]
  · simp at h

/-- The high byte, then the low byte. -/
def wordBytes (w : UInt16) : List UInt8 :=
  [(w.toNat / 256).toUInt8, (w.toNat % 256).toUInt8]

/-- The word of a high and a low byte. -/
def wordOf (high low : UInt8) : UInt16 :=
  (high.toNat * 256 + low.toNat).toUInt16

/-- A word is put together again from its high byte and its low byte. -/
theorem wordOf_wordBytes (w : UInt16) :
    wordOf (w.toNat / 256).toUInt8 (w.toNat % 256).toUInt8 = w := by
  have := w.toNat_lt
  apply UInt16.toNat.inj
  simp [wordOf]
  omega

/-- Two bytes are the bytes of the word that they are read as, so every pair of bytes is a
word. -/
theorem wordBytes_wordOf (high low : UInt8) : wordBytes (wordOf high low) = [high, low] := by
  have := high.toNat_lt
  have := low.toNat_lt
  have h : (wordOf high low).toNat = high.toNat * 256 + low.toNat := by
    simp [wordOf]
    omega
  rw [wordBytes, h]
  congr 1
  · apply UInt8.toNat.inj
    simp
    omega
  · congr 1
    apply UInt8.toNat.inj
    simp

/-- A part of a packet's body. -/
inductive Field where
  | byte (b : UInt8)
  | word (w : UInt16)
  | text (s : String)
  | raw (bytes : List UInt8)
  deriving DecidableEq

namespace Field

/-- The most bytes that a text can have. -/
def textLimit : Nat := 65535

/-- How many bytes a field takes. -/
def size : Field → Nat
  | byte _ => 1
  | word _ => 2
  | text s => 2 + s.utf8ByteSize
  | raw bytes => bytes.length

/-- The bytes of a field; a text beyond the limit has none. -/
def bytes? : Field → Option (List UInt8)
  | byte b => some [b]
  | word w => some (wordBytes w)
  | text s =>
    if s.utf8ByteSize ≤ textLimit then some (wordBytes s.utf8ByteSize.toUInt16 ++ utf8 s) else none
  | raw bytes => some bytes

/-- A field takes the room its size says. -/
theorem length_of_bytes? {field : Field} {bytes : List UInt8} (h : field.bytes? = some bytes) :
    bytes.length = field.size := by
  cases field with
  | byte b => obtain rfl := Option.some.inj h; rfl
  | word w => obtain rfl := Option.some.inj h; rfl
  | text s =>
    simp only [bytes?, Option.ite_none_right_eq_some, Option.some.injEq] at h
    rw [← h.2, size, List.length_append, length_utf8]
    rfl
  | raw bytes => obtain rfl := Option.some.inj h; rfl

end Field

/-- A word at the start of the bytes, and what follows it. -/
def takeWord : List UInt8 → Option (UInt16 × List UInt8)
  | high :: low :: rest => some (wordOf high low, rest)
  | _ => none

/-- A text at the start of the bytes, and what follows it. -/
def takeText (bytes : List UInt8) : Option (String × List UInt8) := do
  let (count, rest) ← takeWord bytes
  if rest.length < count.toNat then none
  let s ← ofUtf8? (rest.take count.toNat)
  return (s, rest.drop count.toNat)

/-- A word at the front of some bytes is taken off with nothing of what comes after it. -/
theorem takeWord_append (w : UInt16) (rest : List UInt8) :
    takeWord (wordBytes w ++ rest) = some (w, rest) := by
  simp [wordBytes, takeWord, wordOf_wordBytes]

/-- A text is read back, whatever follows it. -/
theorem takeText_append {s : String} {bytes : List UInt8} (rest : List UInt8)
    (h : (Field.text s).bytes? = some bytes) : takeText (bytes ++ rest) = some (s, rest) := by
  simp only [Field.bytes?, Option.ite_none_right_eq_some, Option.some.injEq] at h
  obtain ⟨hs, rfl⟩ := h
  unfold Field.textLimit at hs
  have hc : s.utf8ByteSize.toUInt16.toNat = (utf8 s).length := by
    rw [length_utf8]
    simp
    omega
  have ht : ((utf8 s) ++ rest).take s.utf8ByteSize.toUInt16.toNat = utf8 s := by
    rw [hc, List.take_left]
  have hd : ((utf8 s) ++ rest).drop s.utf8ByteSize.toUInt16.toNat = rest := by
    rw [hc, List.drop_left]
  have hl : ¬ ((utf8 s) ++ rest).length < s.utf8ByteSize.toUInt16.toNat := by
    rw [hc, List.length_append]
    omega
  simp only [takeText, List.append_assoc, takeWord_append, Option.bind_eq_bind, Option.bind_some,
    if_neg hl, ht, hd, ofUtf8?_utf8, Option.pure_def]

end Mqtt
