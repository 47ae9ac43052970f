import PeripheralBus.Proofs.Channel.Effects
import PeripheralBus.Proofs.Dma
import PeripheralBus.Proofs.Pack.Serving

/-!
# The transfer of a read order

A read order moves the bytes of the open image from the record's offset on into memory, two to a
word with the high byte first, and moves the registers of the DMA channel on. It moves all that the
channel asks for or nothing: when the image ends too soon the program ends and nothing is written.

* `Transferred`: what a transfer leaves behind, word by word and register by register.
* `transferred_deposit`: the machine after a deposit of a content's bytes.
* `perform_read`: what a read order does with an image that serves its content, however its read
  calls split it.
-/

namespace PeripheralBus

open Pack

/-- What the transfer of `n` words from a place of a content on through the registers at `i` leaves
behind. -/
structure Transferred (m m' : Machine) (i : ℕ) (content : List UInt8) (place n : ℕ) : Prop where
  /-- Word `j` is made of two bytes, the high one first, and stands `j` words after the first,
  counted around the end of memory. -/
  word : ∀ j < n, (m'.memory.read (m.dmaRegister (i + 1) + UInt16.ofNat j)).toNat =
    (content.getD (place + 2 * j) 0).toNat * 256 + (content.getD (place + 2 * j + 1) 0).toNat
  other : ∀ a, (∀ j < n, a ≠ m.dmaRegister (i + 1) + UInt16.ofNat j) →
    m'.memory.read a = m.memory.read a
  count : m'.dmaRegister i = 0
  address : m'.dmaRegister (i + 1) = m.dmaRegister (i + 1) + UInt16.ofNat n
  dma : ∀ j < 64, j ≠ i → j ≠ i + 1 → m'.dmaRegister j = m.dmaRegister j
  a : m'.a = m.a
  keys : m'.keys = m.keys
  rp : m'.rp = m.rp

/-- **A deposit of a content's bytes** is a transfer of the words they make. -/
theorem transferred_deposit (m : Machine) {i : ℕ} {content : List UInt8} {place n : ℕ}
    (hi : i + 1 < 64) (hn : n ≤ 65536) (hcontent : n = 0 ∨ place + 2 * n ≤ content.length) :
    Transferred m (Activity.deposit m i (wordsOfBytes ((content.drop place).take (2 * n)))) i
      content place n := by
  have hbytes : ((content.drop place).take (2 * n)).length = 2 * n := by
    rw [List.length_take, List.length_drop]
    omega
  have hlen : (wordsOfBytes ((content.drop place).take (2 * n))).length = n := by
    rw [length_wordsOfBytes, hbytes]
    omega
  have hmod : i % 64 = i ∧ (i + 1) % 64 = i + 1 := by omega
  refine ⟨?_, ?_, ?_, ?_, ?_, rfl, rfl, rfl⟩
  · intro j hj
    have hbyte : ∀ k < 2 * n,
        ((content.drop place).take (2 * n)).getD k 0 = content.getD (place + k) 0 := by
      intro k hk
      simp only [List.getD_eq_getElem?_getD, List.getElem?_take_of_lt hk, List.getElem?_drop]
    show ((m.memory.writeAll _ _).read _).toNat = _
    rw [Memory.read_writeAll (by omega) (by omega), getElem_wordsOfBytes, toNat_wordOfBytes,
      hbyte _ (by omega), hbyte _ (by omega), Nat.add_assoc]
  · intro a ha
    apply Activity.read_deposit_of_ne
    rwa [hlen]
  · simp [Activity.deposit, Machine.dmaRegister_setDmaRegister, hmod]
  · simp [Activity.deposit, Machine.dmaRegister_setDmaRegister, hlen]
  · intro j hj hne hne'
    unfold Activity.deposit
    rw [Machine.dmaRegister_setDmaRegister, if_neg (by omega), Machine.dmaRegister_setDmaRegister,
      if_neg (by omega)]
    rfl

variable {S : Type} [Cabinet S]

namespace Activity

/-- A read order with an image open and a record inside the geometry is a fetch. -/
theorem read_of_mounted {s : Activity S} {sector : Sector} {unit unit' : Mounted S}
    {offset : UInt64} {fetched : Except Fault (List UInt8)}
    (hoffset : s.controller.geometry.byteOffset? sector.track sector.head sector.record =
      some offset)
    (hmounted : s.controller.mount.mounted = some unit) (hcount : 0 ≤ s.wordsLeft)
    (hfetch : unit.fetch offset (2 * s.wordsLeft.toNat) = (fetched, unit')) :
    (s.read sector).2 = s.afterFetch unit' fetched := by
  rcases s.read_cases sector with ⟨hno | hno, -⟩ | ⟨hno, -⟩ |
    ⟨_, _, _, _, hm, ho, -, hf, -, hread⟩
  · simp [hoffset] at hno
  · omega
  · simp [hmounted] at hno
  · -- the image, the offset and what is fetched are the only ones
    obtain rfl := Option.some.inj (hmounted.symm.trans hm)
    obtain rfl := Option.some.inj (hoffset.symm.trans ho)
    obtain ⟨rfl, rfl⟩ := Prod.mk.inj (hfetch.symm.trans hf)
    exact hread

/-- A read order of an image that serves its content is a fetch of the content's bytes. -/
theorem read_of_serves {s : Activity S} {sector : Sector} {unit : Mounted S} {offset : UInt64}
    {image : Cabinet.Image S} {content : List UInt8}
    (hoffset : s.controller.geometry.byteOffset? sector.track sector.head sector.record =
      some offset)
    (hmounted : s.controller.mount.mounted = some unit)
    (hseek : Cabinet.seek unit.image offset = (.ok (), image))
    (hserves : Serves content image offset.toNat) (hcount : 0 ≤ s.wordsLeft) :
    ∃ image', (s.read sector).2 = s.afterFetch ⟨unit.name, image'⟩
      (if offset.toNat + 2 * s.wordsLeft.toNat ≤ content.length ∨ 2 * s.wordsLeft.toNat = 0 then
        .ok ((content.drop offset.toNat).take (2 * s.wordsLeft.toNat))
      else .error (.shortRead unit.name (2 * s.wordsLeft.toNat)
        (content.length - offset.toNat))) := by
  rcases hfetch : unit.fetch offset (2 * s.wordsLeft.toNat) with ⟨fetched, unit'⟩
  have hname : unit'.name = unit.name := Mounted.fetch_name hfetch
  have hfetched := fetch_of_serves (2 * s.wordsLeft.toNat) hseek hserves
  rw [hfetch] at hfetched
  refine ⟨unit'.image, ?_⟩
  rw [read_of_mounted hoffset hmounted hcount hfetch, ← hfetched, ← hname]

/-- **A read order transfers exactly the right bytes.** Take a read order of a record at an offset,
and an open image that can be moved there and serves its content from there on. Let the selected
channel ask for `n` words. If the content has them all, the order goes on and the words are
transferred; if not, the program ends with a short read of that image, and nothing is changed. -/
theorem perform_read {s : Activity S} {unit : Mounted S} {offset : UInt64}
    {image : Cabinet.Image S} {content : List UInt8} {n : ℕ} (device : UInt8) (sector : Sector)
    (hoffset : s.controller.geometry.byteOffset? sector.track sector.head sector.record =
      some offset)
    (hmounted : s.controller.mount.mounted = some unit)
    (hseek : Cabinet.seek unit.image offset = (.ok (), image))
    (hserves : Serves content image offset.toNat)
    (hcount : -((s.machine.dmaRegister s.countIndex).toInt16.toInt >>> (4 : ℕ)) = (n : ℤ)) :
    (n = 0 ∨ offset.toNat + 2 * n ≤ content.length →
      ∃ next, (s.perform device (.read sector)).2 = .running next ∧
        Transferred s.machine next.machine s.countIndex content offset.toNat n ∧
        next.registers = { s.registers with address := s.registers.address + 3 } ∧
        ∃ image, next.controller = { s.controller with mount := ⟨some ⟨unit.name, image⟩⟩ }) ∧
    (0 < n → content.length < offset.toNat + 2 * n →
      ∃ image, (s.perform device (.read sector)).2 = .ended
        ⟨.error (.shortRead unit.name (2 * n) (content.length - offset.toNat)), s.machine,
          { s.controller with mount := ⟨some ⟨unit.name, image⟩⟩ }⟩) := by
  have hleft : s.wordsLeft = n := by
    rw [wordsLeft, Dma.wordsLeft, ← hcount, Int.shiftRight_eq_div_pow]
    rfl
  have hn : n ≤ 2048 := by
    have hle := Dma.wordsLeft_le (s.machine.dmaRegister s.countIndex)
    rw [wordsLeft] at hleft
    omega
  have hindex : s.countIndex + 1 < 64 := by
    have hlt := Dma.countIndex_lt s.registers.dmaChannel
    rw [countIndex]
    omega
  obtain ⟨image', hread⟩ := read_of_serves hoffset hmounted hseek hserves (by omega)
  rw [hleft, Int.toNat_natCast] at hread
  constructor
  · intro hall
    rw [if_pos (by omega)] at hread
    exact ⟨_, perform_of_read_ok device hread,
      transferred_deposit s.machine hindex (by omega) hall, rfl, image', rfl⟩
  · intro hpos hshort
    rw [if_neg (by omega)] at hread
    exact ⟨image', perform_of_read_error device hread⟩

/-- An activity with an image of these bytes open that come one at a time, and a channel that asks
for two words across the end of memory. -/
def byteByByte (bytes : List UInt8) : Activity FaultyCabinet where
  machine := (({} : Machine).setDmaRegister 0 (Dma.countRegister 2)).setDmaRegister 1 0o177777
  controller :=
    { cabinet := {}
      mount := ⟨some ⟨"unit", { image :=
        { content := ⟨bytes.length, fun i => bytes.getD i 0⟩, portion := some 1 } }⟩⟩
      geometry := { sectorBytes := 2 } }
  registers := { address := 0o1000 }

theorem perform_read_byteByByte :
    (∃ next, ((byteByByte [9, 9, 1, 2, 3, 4]).perform 0o26 (.read ⟨0, 0, 0, 1⟩)).2 =
        .running next ∧ next.machine.memory.read 0o177777 = 0x0102 ∧
      next.machine.memory.read 0 = 0x0304 ∧ next.machine.memory.read 1 = 0) ∧
    ∃ last, ((byteByByte [9, 9, 1, 2, 3]).perform 0o26 (.read ⟨0, 0, 0, 1⟩)).2 = .ended last ∧
      last.result = .error (.shortRead "unit" 4 3) := by
  have hcount (bytes : List UInt8) : -(((byteByByte bytes).machine.dmaRegister
      (byteByByte bytes).countIndex).toInt16.toInt >>> (4 : ℕ)) = ((2 : ℕ) : ℤ) := by
    simp only [byteByByte, countIndex, Machine.dmaRegister_setDmaRegister]
    decide
  have hserves (bytes : List UInt8) := FaultyCabinet.serves
    ⟨{ content := ⟨bytes.length, fun i => bytes.getD i 0⟩, portion := some 1 }, 2, 0⟩ rfl (by simp)
  constructor
  · obtain ⟨next, hnext, hmoved, -⟩ := (perform_read (s := byteByByte [9, 9, 1, 2, 3, 4])
      0o26 ⟨0, 0, 0, 1⟩ rfl rfl rfl (hserves _) (hcount _)).1 (by decide)
    refine ⟨next, hnext, ?_, ?_, ?_⟩
    · apply UInt16.toNat_inj.1
      exact hmoved.word 0 (by decide)
    · apply UInt16.toNat_inj.1
      exact hmoved.word 1 (by decide)
    · refine hmoved.other 1 (fun j hj => ?_)
      have hcases : j = 0 ∨ j = 1 := by omega
      rcases hcases with rfl | rfl <;> decide
  · obtain ⟨image, hlast⟩ := (perform_read (s := byteByByte [9, 9, 1, 2, 3])
      0o26 ⟨0, 0, 0, 1⟩ rfl rfl rfl (hserves _) (hcount _)).2 (by decide) (by decide)
    exact ⟨_, hlast, rfl⟩

end Activity

end PeripheralBus
