/-!
# Events

What carrying out an instruction does besides changing the machine: messages for the log, the
opening, closing and positioning of unit images, and the traffic with a terminal. Operations
return their events in order.

* `messages`, `packEvents`, `lineEvents`: the three views of a sequence of events.
-/

namespace PeripheralBus

/-- How important a message is. -/
inductive Level where
  | error
  | warn
  | info
  | debug
  | trace
  deriving DecidableEq, Repr

/-- The part of the program that a message comes from. -/
inductive Source where
  | configuration
  | dispatch
  | disk
  | channel
  | mount
  | console
  | panel
  | tape
  | runner
  deriving DecidableEq, Repr

/-- The name under which the log lists a source. -/
def Source.name : Source → String
  | .configuration => "pio_core::config"
  | .dispatch => "pio_core::dispatch"
  | .disk => "pio_core::disk"
  | .channel => "pio_core::disk::channel"
  | .mount => "pio_core::store::slot"
  | .console => "pio_core::devices::console"
  | .panel => "pio_core::devices::panel"
  | .tape => "pio_core::devices::tape"
  | .runner => "pio"

/-- A message for the log. -/
structure Message where
  level : Level
  source : Source
  text : String
  deriving DecidableEq, Repr

/-- What happens to unit images. -/
inductive PackEvent where
  /-- An attempt to open an image, and whether it succeeded. -/
  | opening (name : String) (succeeded : Bool)
  /-- An open image was closed. -/
  | closed (name : String)
  /-- An attempt to move to an offset of an open image. -/
  | seeking (name : String) (offset : UInt64)
  deriving DecidableEq, Repr

/-- What happens between a console and its terminal. -/
inductive LineEvent where
  /-- A character was written. -/
  | written (character : UInt8)
  /-- Input was waited for, so many milliseconds at most. -/
  | polled (milliseconds : Nat)
  /-- A character was asked for, waiting for it or not. -/
  | asked (blocking : Bool)
  deriving DecidableEq, Repr

/-- One event. -/
inductive Event where
  | message (m : Message)
  | pack (e : PackEvent)
  | line (e : LineEvent)
  deriving DecidableEq, Repr

namespace Event

/-- A message at level `debug`. -/
def debug (source : Source) (text : String) : Event := .message ⟨.debug, source, text⟩

/-- A message at level `trace`. -/
def trace (source : Source) (text : String) : Event := .message ⟨.trace, source, text⟩

/-- A message at level `warn`. -/
def warn (source : Source) (text : String) : Event := .message ⟨.warn, source, text⟩

/-- The messages among events. -/
def messages (events : List Event) : List Message :=
  events.filterMap fun
    | .message m => some m
    | _ => none

/-- What happened to unit images. -/
def packEvents (events : List Event) : List PackEvent :=
  events.filterMap fun
    | .pack e => some e
    | _ => none

@[simp] theorem packEvents_nil : packEvents [] = [] := rfl

@[simp] theorem packEvents_append (events more : List Event) :
    packEvents (events ++ more) = packEvents events ++ packEvents more :=
  List.filterMap_append

@[simp] theorem packEvents_pack (e : PackEvent) (events : List Event) :
    packEvents (.pack e :: events) = e :: packEvents events := rfl

@[simp] theorem packEvents_debug (source : Source) (text : String) (events : List Event) :
    packEvents (debug source text :: events) = packEvents events := rfl

@[simp] theorem packEvents_trace (source : Source) (text : String) (events : List Event) :
    packEvents (trace source text :: events) = packEvents events := rfl

@[simp] theorem packEvents_warn (source : Source) (text : String) (events : List Event) :
    packEvents (warn source text :: events) = packEvents events := rfl

/-- What happened between consoles and terminals. -/
def lineEvents (events : List Event) : List LineEvent :=
  events.filterMap fun
    | .line e => some e
    | _ => none

end Event

end PeripheralBus
