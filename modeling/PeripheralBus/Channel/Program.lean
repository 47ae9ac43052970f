import PeripheralBus.Channel.Controller
import PeripheralBus.Channel.Dma
import PeripheralBus.Channel.Order
import PeripheralBus.Pack.Naming

/-!
# Channel programs

A channel program is a sequence of orders in memory. The controller reads each order afresh from
memory, so a program can change itself. An order with the execute-if flag is stepped over. A unit
that is not open makes the status not ready and the program goes on; every other trouble ends it.

* `Activity.step`: one order.
* `Controller.run`: orders until the program ends, if it does within a limit. A finished run does
  not depend on the limit.
-/

namespace PeripheralBus

open Pack

/-- The status of a controller that is ready. -/
def statusReady : Word := 0o100000

/-- The status after a unit failed to open or an order found none open. -/
def statusNotReady : Word := 0o100001

/-- The controller's registers while a channel program runs. -/
structure Registers where
  /-- The address of the next order. -/
  address : Word
  status : Word := statusReady
  /-- The unit that was selected last. -/
  unit : Option UInt8 := none
  /-- The DMA channel for transfers. -/
  dmaChannel : Word := 0
  /-- The number of DMA channels less one. -/
  dmaChannels : UInt8 := 0
  /-- How many orders were executed. -/
  executed : Nat := 0
  /-- How many orders were stepped over. -/
  skipped : Nat := 0
  deriving DecidableEq, Repr

/-- Whether the condition of an execute-if order holds. It never does. -/
def Registers.conditionHolds (_ : Registers) (_ : Word) : Bool := false

/-- How a channel program halted. -/
structure Completion where
  /-- The address of the halt order. -/
  address : Word
  status : Word
  unit : Option UInt8
  /-- How many orders were executed, the halt included. -/
  executed : Nat
  /-- How many orders were stepped over. -/
  skipped : Nat
  deriving DecidableEq, Repr

/-- A channel program at work. -/
structure Activity (S : Type) [Cabinet S] where
  machine : Machine
  controller : Controller S
  registers : Registers

/-- The end of a channel program. -/
structure Ended (S : Type) [Cabinet S] where
  result : Except Fault Completion
  machine : Machine
  controller : Controller S

/-- What an order leads to. -/
inductive Progress (S : Type) [Cabinet S] where
  | running (next : Activity S)
  | ended (last : Ended S)

namespace Activity

variable {S : Type} [Cabinet S]

/-- Ends with a result and leaves everything as it is. -/
def finish (s : Activity S) (result : Except Fault Completion) : Progress S :=
  .ended ⟨result, s.machine, s.controller⟩

/-- Goes on at an address. -/
def goto (s : Activity S) (address : Word) : Activity S :=
  { s with registers := { s.registers with address } }

/-- Goes on after an order of this size. -/
def advance (s : Activity S) (size : Word) : Activity S := s.goto (s.registers.address + size)

/-- Steps over an order of this size. -/
def stepOver (s : Activity S) (size : Word) : Activity S :=
  { s with registers := { s.registers with
      address := s.registers.address + size
      skipped := s.registers.skipped + 1 } }

/-- Counts an order as executed. -/
def countExecuted (s : Activity S) : Activity S :=
  { s with registers := { s.registers with executed := s.registers.executed + 1 } }

/-- Makes the status not ready. -/
def becomeNotReady (s : Activity S) : Activity S :=
  { s with registers := { s.registers with status := statusNotReady } }

/-- Writes a memory word. -/
def write (s : Activity S) (address value : Word) : Activity S :=
  { s with machine := s.machine.write address value }

/-- A message from the channel. -/
def say (text : String) : Event := .debug .channel text

/-- The warning that no unit is open. -/
def noUnitWarning : Event := .warn .channel " unit not selected or not ready"

/-- The state of the DMA channel as the log shows it. -/
def dmaMessage (s : Activity S) : Event :=
  let channel := s.registers.dmaChannel
  let i := Dma.countIndex channel
  let count := s.machine.dmaRegister i
  let address := s.machine.dmaRegister (i + 1)
  .trace .channel (s!" DMA channels: nch-1={s.registers.dmaChannels.toNat}, " ++
    s!"['{Octal.text channel.toNat}]='{Octal.text count.toNat}, " ++
    s!"['{Octal.text (channel + 1).toNat}]='{Octal.text address.toNat}, " ++
    s!"nwords={Dma.wordsLeft count}")

/-- Selects a unit: its image becomes the open one, or the status not ready. -/
def selectUnit (s : Activity S) (device field : UInt8) : List Event × Activity S :=
  let unit := unitNumber field
  let name := unitName device unit
  let selection := s.controller.mount.select s.controller.cabinet name
  let selected : Activity S :=
    { s with
      controller := { s.controller with cabinet := selection.cabinet, mount := selection.mount }
      registers := { s.registers with unit := some unit } }
  (say s!" select unit {unit.toNat}, filename {name}" :: selection.events,
    if selection.ready then selected else selected.becomeNotReady)

/-- Puts the words of a completed transfer into memory and moves the channel's registers on. -/
def deposit (m : Machine) (countIndex : Nat) (words : List Word) : Machine :=
  let address := m.dmaRegister (countIndex + 1)
  let m := { m with memory := m.memory.writeAll address words }
  (m.setDmaRegister countIndex 0).setDmaRegister (countIndex + 1)
    (address + UInt16.ofNat words.length)

/-- Reads from the open unit into memory, as many words as the DMA channel asks for. With a fault
comes the controller, whose image may have moved. -/
def read (s : Activity S) (t : Sector) :
    List Event × Except (Fault × Controller S) (Activity S) :=
  let c := s.controller
  match c.geometry.byteOffset? t.track t.head t.record with
  | none =>
    ([s.dmaMessage],
      .error (.configuration (.outsideGeometry t.track t.head t.record c.geometry), c))
  | some offset =>
    match c.mount.mounted with
    | none => ([s.dmaMessage, noUnitWarning], .ok s.becomeNotReady)
    | some unit =>
      let i := Dma.countIndex s.registers.dmaChannel
      let register := s.machine.dmaRegister i
      let count := Dma.wordsLeft register
      if count < 0 then
        ([s.dmaMessage], .error (.invalidCount s.registers.dmaChannel register, c))
      else
        let record := (c.geometry.recordNumber? t.track t.head t.record).getD 0
        let events := [s.dmaMessage, say s!" record={record.toNat}, byte offset={offset.toNat}",
          .pack (.seeking unit.name offset)]
        let (fetched, unit) := unit.fetch offset (2 * count.toNat)
        let controller := { c with mount := ⟨some unit⟩ }
        match fetched with
        | .error fault => (events, .error (fault, controller))
        | .ok bytes =>
          (events, .ok { s with machine := deposit s.machine i (wordsOfBytes bytes), controller })

/-- Format and write, which do nothing but notice whether a unit is open. -/
def refuse (s : Activity S) (name : String) : List Event × Activity S :=
  if s.controller.mount.isOpen then
    ([s.dmaMessage, .warn .channel s!" {name} order not implemented"], s)
  else ([s.dmaMessage, noUnitWarning], s.becomeNotReady)

/-- Executes an order. -/
def perform (s : Activity S) (device : UInt8) (order : Order) : List Event × Progress S :=
  let here := s.registers.address
  let after (s : Activity S) : Progress S := .running (s.advance order.size)
  match order with
  | .halt =>
    let r := s.registers
    ([say s!" channel program halt at '{Octal.text here.toNat}"],
      s.finish (.ok ⟨here, r.status, r.unit, r.executed, r.skipped⟩))
  | .format _ => let (events, s) := s.refuse "format"; (events, after s)
  | .write _ => let (events, s) := s.refuse "write"; (events, after s)
  | .read sector =>
    match s.read sector with
    | (events, .ok s) => (events, after s)
    | (events, .error (fault, controller)) => (events, .ended ⟨.error fault, s.machine, controller⟩)
  | .seek .. => ([], after s)
  | .selectUnit field => let (events, s) := s.selectUnit device field; (events, after s)
  | .stall => ([], after s)
  | .storeStatus address =>
    ([say (s!" store status='{Octal.text s.registers.status.toNat} " ++
        s!"to '{Octal.text address.toNat}")],
      after (s.write address s.registers.status))
  | .storeAddress address => ([], after (s.write address here))
  | .selectDma channels channel =>
    ([], after { s with registers := { s.registers with
        dmaChannels := channels
        dmaChannel := channel } })
  | .interrupt vector => ([], s.finish (.error (.interruptOrder vector here)))
  | .jump target => ([], .running (s.goto target))

/-- Reads the next order from memory and executes it or steps over it. -/
def step (s : Activity S) (device : UInt8) : List Event × Progress S :=
  let here := s.registers.address
  let words := s.machine.memory.orderWords here
  let fetched := say (s!"'{Octal.text here.toNat}: '{Octal.text words.first.toNat} " ++
    s!"'{Octal.text words.second.toNat} '{Octal.text words.third.toNat}")
  if words.flagged && !s.registers.conditionHolds words.first then
    ([fetched, .trace .channel s!"execute-if order at '{Octal.text here.toNat} stepped over"],
      .running (s.stepOver (Order.sizeOfCode words.code)))
  else
    match Order.ofWords words with
    | .error code => ([fetched], s.finish (.error (.unrecognizedOrder code here)))
    | .ok order =>
      let (events, progress) := s.countExecuted.perform device order
      (fetched :: say s!" {order.text}" :: events, progress)

/-- Steps until the program ends, at most `limit` times, and adds the events to those before. -/
def run (device : UInt8) : Nat → Array Event → Activity S → Option (Array Event × Ended S)
  | 0, _, _ => none
  | limit + 1, events, s =>
    match s.step device with
    | (more, .ended last) => some (events ++ more, last)
    | (more, .running next) => run device limit (events ++ more) next

end Activity

/-- Runs the channel program at an address, for a controller at a device address. There is no
result when the program has not ended after `limit` orders. -/
def Controller.run {S : Type} [Cabinet S] (c : Controller S) (limit : Nat) (m : Machine)
    (device : UInt8) (address : Word) : Option (List Event × Ended S) :=
  (Activity.run device limit #[] ⟨m, c, { address }⟩).map fun r => (r.1.toList, r.2)

end PeripheralBus
