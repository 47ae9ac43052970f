import PeripheralBus.Machine
import PeripheralBus.Text.Octal

/-!
# Channel orders

An order takes two or three words of memory. The first word has the order's code in bits 15 to 12,
the execute-if flag in bit 11 and a small number in bits 3 to 0; where the other fields are depends
on the order:

* format, read, write: the track in bits 9 to 0 of the second word, the record in bits 15 to 8 and
  the head in bits 5 to 0 of the third;
* seek: restore in bit 15, clear in bit 14, the track in bits 9 to 0 of the second word;
* select unit: the unit field in bits 3 to 0 of the second word;
* all others: one address or number, the whole second word.

The codes 1, 8, 10 and 12 belong to no order.

* `Order.ofWords`: the order of three words, or the code that belongs to none.
* `Order.toWords`: the words of an order, with or without the flag.
-/

namespace PeripheralBus

/-- Three words from which an order is read. -/
structure OrderWords where
  first : Word
  second : Word
  third : Word
  deriving DecidableEq, Repr

namespace OrderWords

/-- The execute-if flag in the first word. -/
def flag : Word := 0o4000

/-- The bits of a track number. -/
def trackMask : Word := 0o1777

/-- The bits of a head number. -/
def headMask : Word := 0o77

/-- The bits of a small number. -/
def lowMask : Word := 0o17

/-- The seek order's restore bit. -/
def restoreBit : Word := 0o100000

/-- The seek order's clear bit. -/
def clearBit : Word := 0o40000

/-- The order code. -/
def code (w : OrderWords) : UInt8 := (w.first >>> 12).toUInt8

/-- Whether the execute-if flag is set. -/
def flagged (w : OrderWords) : Bool := w.first &&& flag ≠ 0

/-- The small number of the first word. -/
def low (w : OrderWords) : UInt8 := (w.first &&& lowMask).toUInt8

/-- The track number. -/
def track (w : OrderWords) : Word := w.second &&& trackMask

/-- The seek order's restore flag. -/
def restore (w : OrderWords) : Bool := w.second &&& restoreBit ≠ 0

/-- The seek order's clear flag. -/
def clear (w : OrderWords) : Bool := w.second &&& clearBit ≠ 0

/-- The unit field. -/
def unitField (w : OrderWords) : UInt8 := (w.second &&& lowMask).toUInt8

/-- The record number; for format the number of records. -/
def record (w : OrderWords) : UInt8 := (w.third >>> 8).toUInt8

/-- The head number. -/
def head (w : OrderWords) : UInt8 := (w.third &&& headMask).toUInt8

/-- Three words from which a list of words is read as an order, with zeros for those missing. -/
def ofList (words : List Word) : OrderWords := ⟨words.getD 0 0, words.getD 1 0, words.getD 2 0⟩

end OrderWords

/-- The three words at an address; after the last address comes the first. -/
def Memory.orderWords (m : Memory) (address : Word) : OrderWords :=
  ⟨m.read address, m.read (address + 1), m.read (address + 2)⟩

/-- The operands of an order that moves data. -/
structure Sector where
  recordSize : UInt8
  track : Word
  head : UInt8
  record : UInt8
  deriving DecidableEq, Repr

namespace Sector

/-- The operands in three words. -/
def ofWords (w : OrderWords) : Sector := ⟨w.low, w.track, w.head, w.record⟩

/-- The words after the first one. -/
def operandWords (s : Sector) : List Word :=
  [s.track &&& OrderWords.trackMask,
    (s.record.toUInt16 <<< 8) ||| (s.head.toUInt16 &&& OrderWords.headMask)]

end Sector

/-- A channel order. -/
inductive Order where
  | halt
  /-- The record number is the number of records to format. -/
  | format (sector : Sector)
  | read (sector : Sector)
  | write (sector : Sector)
  | seek (track : Word) (restore clear : Bool)
  | selectUnit (field : UInt8)
  | stall
  | storeStatus (address : Word)
  /-- Stores the order's own address. -/
  | storeAddress (address : Word)
  /-- The number of channels is given less one. -/
  | selectDma (channels : UInt8) (channel : Word)
  | interrupt (vector : Word)
  | jump (target : Word)
  deriving DecidableEq, Repr

namespace Order

/-- The code of an order. -/
def code : Order → UInt8
  | .halt => 0
  | .format _ => 2
  | .seek .. => 3
  | .selectUnit _ => 4
  | .read _ => 5
  | .write _ => 6
  | .stall => 7
  | .storeStatus _ => 9
  | .storeAddress _ => 11
  | .selectDma .. => 13
  | .interrupt _ => 14
  | .jump _ => 15

/-- How many words an order with this code takes: three if it moves data, otherwise two. -/
def sizeOfCode (code : UInt8) : Word := if code = 2 ∨ code = 5 ∨ code = 6 then 3 else 2

/-- How many words an order takes. -/
def size (o : Order) : Word := sizeOfCode o.code

/-- The order in three words, or the code that belongs to no order. -/
def ofWords (w : OrderWords) : Except UInt8 Order :=
  match w.code.toNat with
  | 0 => .ok .halt
  | 2 => .ok (.format (Sector.ofWords w))
  | 3 => .ok (.seek w.track w.restore w.clear)
  | 4 => .ok (.selectUnit w.unitField)
  | 5 => .ok (.read (Sector.ofWords w))
  | 6 => .ok (.write (Sector.ofWords w))
  | 7 => .ok .stall
  | 9 => .ok (.storeStatus w.second)
  | 11 => .ok (.storeAddress w.second)
  | 13 => .ok (.selectDma w.low w.second)
  | 14 => .ok (.interrupt w.second)
  | 15 => .ok (.jump w.second)
  | _ => .error w.code

/-- The small number in the first word. -/
def lowField : Order → UInt8
  | .format s | .read s | .write s => s.recordSize
  | .selectDma channels _ => channels
  | _ => 0

/-- The words after the first one; fields too wide for their place lose their high bits. -/
def operandWords : Order → List Word
  | .halt | .stall => [0]
  | .format s | .read s | .write s => s.operandWords
  | .seek track restore clear =>
    [(track &&& OrderWords.trackMask) ||| (if restore then OrderWords.restoreBit else 0) |||
      (if clear then OrderWords.clearBit else 0)]
  | .selectUnit field => [field.toUInt16 &&& OrderWords.lowMask]
  | .storeStatus address | .storeAddress address => [address]
  | .selectDma _ channel => [channel]
  | .interrupt vector => [vector]
  | .jump target => [target]

/-- The first word of an order. -/
def firstWord (o : Order) (executeIf : Bool) : Word :=
  (o.code.toUInt16 <<< 12) ||| (o.lowField.toUInt16 &&& OrderWords.lowMask) |||
    (if executeIf then OrderWords.flag else 0)

/-- The words of an order, with the execute-if flag as given. -/
def toWords (o : Order) (executeIf : Bool) : List Word := o.firstWord executeIf :: o.operandWords

/-- Four binary digits of a unit field, more if it has more. -/
def unitFieldText (field : UInt8) : String :=
  String.ofList ((Nat.toDigits 2 field.toNat).leftpad 4 '0')

/-- A data order as the log shows it. -/
def sectorText (name recordName : String) (s : Sector) : String :=
  s!"{name}, head={s.head.toNat}, track={s.track.toNat}, {recordName}={s.record.toNat}, " ++
    s!"recsize={s.recordSize.toNat}"

/-- An order as the log shows it. -/
def text : Order → String
  | .halt => "halt"
  | .format s => sectorText "format" "records" s
  | .read s => sectorText "read" "rec" s
  | .write s => sectorText "write" "rec" s
  | .seek track restore clear => s!"seek track {track.toNat}, restore={restore}, clear={clear}"
  | .selectUnit field => s!"select unit field {unitFieldText field}"
  | .stall => "stall"
  | .storeStatus address => s!"store status to '{Octal.text address.toNat}"
  | .storeAddress address => s!"store OAR to '{Octal.text address.toNat}"
  | .selectDma channels channel =>
    s!"set DMA channels, nch-1={channels.toNat}, channel='{Octal.text channel.toNat}"
  | .interrupt vector => s!"interrupt through '{Octal.text vector.toNat}"
  | .jump target => s!"jump to '{Octal.text target.toNat}"

end Order

end PeripheralBus
