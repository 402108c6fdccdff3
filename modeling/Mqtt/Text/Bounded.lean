/-
# Texts of bounded size

A host name, a client identifier or a filter has a largest size, counted in
bytes of UTF-8.  The bound travels with the text.
-/

namespace Mqtt

/-- A text of at most so many bytes. -/
structure BoundedText (limit : Nat) where
  text : String
  size_le : text.utf8ByteSize ≤ limit
  deriving DecidableEq

namespace BoundedText

/-- The empty text is within every bound. -/
instance {limit : Nat} : Inhabited (BoundedText limit) :=
  ⟨"", Nat.zero_le limit⟩

/-- The text, if it is within the bound. -/
def of? {limit : Nat} (text : String) : Option (BoundedText limit) :=
  if h : text.utf8ByteSize ≤ limit then some ⟨text, h⟩ else none

/-- The text of a bounded text is within the bound, and taking it for one gives it back. -/
theorem of?_text {limit : Nat} (t : BoundedText limit) : of? t.text = some t := by
  simp [of?, t.size_le]

/-- A text is refused exactly if it is longer than the bound, counted in bytes of UTF-8. -/
theorem of?_eq_none_iff {limit : Nat} {text : String} :
    (of? text : Option (BoundedText limit)) = none ↔ limit < text.utf8ByteSize := by
  simp [of?]

end BoundedText
end Mqtt
