import PeripheralBus.Machine

/-!
# DMA channels

A channel has two registers of the DMA bank: a count register, and after it an address register.
The count register holds the negated number of words in its upper twelve bits; its lower four bits
do not count.

* `Dma.countIndex`: where a channel's count register is.
* `Dma.wordsLeft`: the number of words that a count register asks for.
* `Dma.countRegister`: the register that asks for so many words.
-/

namespace PeripheralBus.Dma

/-- The index of a channel's count register. Bit 0 of the channel picks the odd half of a group of
four registers, so channel 2 is at 4. -/
def countIndex (channel : Word) : Nat := (((channel &&& 0o36) <<< 1) ||| (channel &&& 1)).toNat

/-- The number of words that a count register asks for; it can be negative. -/
def wordsLeft (register : Word) : Int := -(register.toInt16.toInt / 16)

/-- The count register for a transfer of so many words, exact up to 2047. -/
def countRegister (words : Word) : Word := (-words) <<< 4

end PeripheralBus.Dma
