import PeripheralBus.Line.Terminal

/-!
# A terminal on a bad line

A terminal whose writes or reads fail while a fault is set, for trying out how a console copes.
-/

namespace PeripheralBus.Line

/-- A terminal and the faults of its line, by their texts. -/
structure FaultyTerminal (T : Type) where
  terminal : T
  writeFault : Option String := none
  readFault : Option String := none

instance {T : Type} [Terminal T] : Terminal (FaultyTerminal T) where
  write t character :=
    match t.writeFault with
    | some text => (.error (.other text), t)
    | none =>
      let (result, terminal) := Terminal.write t.terminal character
      (result, { t with terminal })
  poll t milliseconds :=
    let (ready, terminal) := Terminal.poll t.terminal milliseconds
    (ready, { t with terminal })
  read t blocking :=
    match t.readFault with
    | some text => (.error (.other text), t)
    | none =>
      let (result, terminal) := Terminal.read t.terminal blocking
      (result, { t with terminal })

end PeripheralBus.Line
