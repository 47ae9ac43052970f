/-!
# The machine

What a peripheral sees of its machine: 65536 words of memory, the accumulator `a`, the mode
register `keys`, the instruction pointer `rp` and 64 DMA registers.

* `Memory.read`, `Memory.write`: one word; every address has one, and a write changes no other.
* `Memory.storeFrom`: words into rising addresses; those past the end are dropped.
* `Machine.signalSuccess`: how an I/O instruction tells the program that it succeeded.
* `Machine.spinsOnFailure`: whether the program would try a failed I/O instruction for ever.
-/

namespace PeripheralBus

/-- A machine word, also an address. -/
abbrev Word := UInt16

/-- The word of two bytes, the high one first. -/
def wordOfBytes (high low : UInt8) : Word := (high.toUInt16 <<< 8) ||| low.toUInt16

/-- The words of bytes, two to a word; a lone last byte is a high half. -/
def wordsOfBytes : List UInt8 → List Word
  | [] => []
  | [high] => [wordOfBytes high 0]
  | high :: low :: rest => wordOfBytes high low :: wordsOfBytes rest

theorem length_wordsOfBytes : (bytes : List UInt8) →
    (wordsOfBytes bytes).length = (bytes.length + 1) / 2
  | [] => rfl
  | [_] => by simp [wordsOfBytes]
  | _ :: _ :: rest => by
    simp only [wordsOfBytes, List.length_cons, length_wordsOfBytes rest]
    omega

/-- The whole memory. -/
structure Memory where
  cells : Vector Word 65536

namespace Memory

/-- Memory that holds zero everywhere. -/
def zero : Memory := ⟨Vector.replicate 65536 0⟩

/-- The word at an address. -/
def read (m : Memory) (address : Word) : Word :=
  have : address.toNat < 65536 := address.toNat_lt
  m.cells[address.toNat]

/-- Memory with `value` at an address. -/
def write (m : Memory) (address value : Word) : Memory :=
  ⟨m.cells.set address.toNat value address.toNat_lt⟩

/-- Memories with the same words are the same. -/
@[ext] theorem ext {m m' : Memory} (h : ∀ address, m.read address = m'.read address) : m = m' := by
  cases m with | mk cells
  cases m' with | mk cells'
  congr 1
  apply Vector.ext
  intro i hi
  simpa [read, Nat.mod_eq_of_lt hi] using h (UInt16.ofNat i)

@[simp] theorem read_zero (address : Word) : zero.read address = 0 := by
  simp [zero, read]

theorem read_write (m : Memory) (address value place : Word) :
    (m.write address value).read place = if place = address then value else m.read place := by
  simp only [read, write, Vector.getElem_set, UInt16.toNat_inj, eq_comm]

/-- Writes words at rising addresses, from zero again after the last address. -/
def writeAll : Memory → Word → List Word → Memory
  | m, _, [] => m
  | m, address, w :: rest => (m.write address w).writeAll (address + 1) rest

/-- Writes words at rising places; a place past the end of memory takes none. -/
def storeFrom : Memory → Nat → List Word → Memory
  | m, _, [] => m
  | m, place, w :: rest =>
    if h : place < 65536 then storeFrom ⟨m.cells.set place w h⟩ (place + 1) rest else m

/-- The words from `address` on, at most `count`, up to the end of memory. -/
def words (m : Memory) (address : Word) (count : Nat) : List Word :=
  (List.range (min count (65536 - address.toNat))).map fun i =>
    m.read (address + UInt16.ofNat i)

end Memory

/-- Mode bit: success is told by the condition code instead of a skip. -/
def conditionMode : Word := 0o10000

/-- Condition bit: equal, which stands for success. -/
def conditionEqual : Word := 0o100

/-- A jump to the word before it. -/
def jumpBack : Word := 0o3776

/-- A branch taken unless the condition is equal; the next word is its target. -/
def branchUnlessEqual : Word := 0o141603

/-- Registers and memory. -/
structure Machine where
  memory : Memory := .zero
  dma : Vector Word 64 := Vector.replicate 64 0
  a : Word := 0
  keys : Word := 0
  rp : Word := 0

namespace Machine

/-- A DMA register; register numbers count modulo 64. -/
def dmaRegister (m : Machine) (i : Nat) : Word := m.dma[i % 64]

/-- The machine with a DMA register set. -/
def setDmaRegister (m : Machine) (i : Nat) (value : Word) : Machine :=
  { m with dma := m.dma.set (i % 64) value }

theorem dmaRegister_setDmaRegister (m : Machine) (i j : Nat) (value : Word) :
    (m.setDmaRegister i value).dmaRegister j =
      if j % 64 = i % 64 then value else m.dmaRegister j := by
  simp only [dmaRegister, setDmaRegister, Vector.getElem_set, eq_comm]

/-- The machine with one memory word written. -/
def write (m : Machine) (address value : Word) : Machine :=
  { m with memory := m.memory.write address value }

/-- Tells the program that the I/O instruction succeeded: in condition mode the condition becomes
equal, otherwise the next word is skipped. -/
def signalSuccess (m : Machine) : Machine :=
  if m.keys &&& conditionMode ≠ 0 then { m with keys := m.keys ||| conditionEqual }
  else { m with rp := m.rp + 1 }

/-- Whether the word after the I/O instruction leads straight back to it when it fails: a jump
back, or a branch unless equal to the instruction. -/
def spinsOnFailure (m : Machine) : Bool :=
  let next := m.memory.read m.rp
  next == jumpBack ||
    (next == branchUnlessEqual && m.memory.read (m.rp + 1) == m.rp - 2)

end Machine

end PeripheralBus
