import PeripheralBus.Main
import PeripheralBus.Configuration.Print
import PeripheralBus.Host.FileTree
import PeripheralBus.Line.FaultyTerminal
import PeripheralBus.Pack.FaultyCabinet
import PeripheralBus.Pack.MemoryCabinet
import PeripheralBus.Proofs.Word
import PeripheralBus.Proofs.Memory
import PeripheralBus.Proofs.Image
import PeripheralBus.Proofs.Channel.Path
import PeripheralBus.Proofs.Channel.Codec
import PeripheralBus.Proofs.Channel.Effects
import PeripheralBus.Proofs.Channel.Listing
import PeripheralBus.Proofs.Pack.Serving
import PeripheralBus.Proofs.Channel.Transfer
import PeripheralBus.Proofs.Channel.Packing
import PeripheralBus.Proofs.Channel.Ending
import PeripheralBus.Proofs.Channel.Halting
import PeripheralBus.Proofs.Pack.Custody
import PeripheralBus.Proofs.Pack.Snapshot
import PeripheralBus.Proofs.Channel.Lifetime
import PeripheralBus.Proofs.Channel.RoundTrip
import PeripheralBus.Proofs.Channel.Status
import PeripheralBus.Proofs.Channel.Selection
import PeripheralBus.Proofs.Channel.Units
import PeripheralBus.Proofs.Bus.Contract
import PeripheralBus.Proofs.Dma
import PeripheralBus.Proofs.Pack.Geometry
import PeripheralBus.Proofs.Pack.Layout
import PeripheralBus.Proofs.Channel.Frame
import PeripheralBus.Proofs.Channel.Pair
import PeripheralBus.Proofs.Channel.Fault
import PeripheralBus.Proofs.Bus.Geometry
import PeripheralBus.Proofs.Bus.Instructions
import PeripheralBus.Proofs.Device.Console
import PeripheralBus.Proofs.Line.Keyboard
import PeripheralBus.Proofs.Bus.Retry
import PeripheralBus.Proofs.CommandLine.Execution
import PeripheralBus.Proofs.Text.Numeral
import PeripheralBus.Proofs.Json.Strings
import PeripheralBus.Proofs.Json.Values
import PeripheralBus.Proofs.Configuration.RoundTrip
import PeripheralBus.Proofs.Configuration.DeviceMap
import PeripheralBus.Proofs.Configuration.Acceptance
import PeripheralBus.Proofs.CommandLine.Words
import PeripheralBus.Proofs.CommandLine.Dump
