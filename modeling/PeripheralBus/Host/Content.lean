import PeripheralBus.Machine

/-!
# Contents

A sequence of bytes by its size and a function from places to bytes, so that a very long image
costs nothing until it is read.

* `Content.slice`: the bytes of a range, as far as there are any.
* `Content.word`: the words that big-endian pairs of bytes make; a lone last byte is a high half.
-/

namespace PeripheralBus.Host

/-- Bytes by place. Only places below the size count. -/
structure Content where
  size : Nat
  byte : Nat → UInt8

namespace Content

/-- No bytes. -/
def empty : Content := ⟨0, fun _ => 0⟩

/-- The bytes of an array. -/
def ofByteArray (bytes : ByteArray) : Content := ⟨bytes.size, fun i => bytes.data.getD i 0⟩

/-- The bytes of a list. -/
def ofList (bytes : List UInt8) : Content := ofByteArray ⟨bytes.toArray⟩

/-- The byte at a place, zero past the end. -/
def byteAt (c : Content) (i : Nat) : UInt8 := if i < c.size then c.byte i else 0

/-- The bytes from `start` on, at most `count`. -/
def slice (c : Content) (start count : Nat) : List UInt8 :=
  (List.range (min count (c.size - start))).map fun i => c.byte (start + i)

/-- All bytes. -/
def toList (c : Content) : List UInt8 := c.slice 0 c.size

/-- How many words the bytes make. -/
def wordCount (c : Content) : Nat := (c.size + 1) / 2

/-- Word `i`: bytes `2i` and `2i + 1`, the first of them the high half. -/
def word (c : Content) (i : Nat) : Word := wordOfBytes (c.byteAt (2 * i)) (c.byteAt (2 * i + 1))

/-- The first words, at most `count`. -/
def words (c : Content) (count : Nat) : List Word :=
  (List.range (min count c.wordCount)).map c.word

end Content

end PeripheralBus.Host

namespace PeripheralBus.Memory

/-- Memory with a content's words from `address` on; words past the end of memory are dropped. -/
def storeContent (m : Memory) (address : Word) (c : Host.Content) : Memory :=
  m.storeFrom address.toNat (c.words (65536 - address.toNat))

end PeripheralBus.Memory
