import PeripheralBus.Device.Reply

/-!
# The control panel

Sense switches that a program can read and lights that it can set.

* `Panel.perform`: carries out an instruction.
-/

namespace PeripheralBus

/-- Switches and lights. -/
structure Panel where
  switches : Word := 0
  lights : Word := 0
  deriving DecidableEq, Repr

/-- Carries out an instruction. Reading the switches never skips, setting the lights always does,
and nothing else is known. -/
def Panel.perform (p : Panel) (i : Instruction) (m : Machine) : Reply Panel :=
  match i.kind, i.function.toNat with
  | .input, 0o16 => .idle p { m with a := p.switches }
  | .output, 0o17 =>
    .succeed { p with lights := m.a } m
      [.debug .panel s!"panel: lights='{Octal.text m.a.toNat}"]
  | _, _ => .refuse i p m

end PeripheralBus
