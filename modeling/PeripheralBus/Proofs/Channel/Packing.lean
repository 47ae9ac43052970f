import PeripheralBus.Proofs.Channel.Listing
import PeripheralBus.Proofs.Channel.Transfer
import PeripheralBus.Proofs.Image

/-!
# Read orders and loaded images

There are two ways for the bytes of a file into memory: a read order fetches them through a DMA
channel, and an image is loaded before the first instruction. Both make words of two bytes, the high
one first. They differ at the end of memory only, where a transfer goes on from address zero and a
loaded image is cut off. So what is at the first word or behind it is the same either way.

* `Memory.read_storeContent_words`: memory after loading, in the words of the image.
* `Memory.storeContent_eq_writeAll`: **an image that fits is loaded as it is transferred**.
* `Activity.memory_of_read`: what a read order of bytes that the image has leaves of memory.
* `Activity.read_loads`: the two ways side by side.
-/

namespace PeripheralBus

open Host Pack

/-- **Memory after loading**, in the words that the bytes make. -/
theorem Memory.read_storeContent_words (m : Memory) (start : Word) (c : Content) (x : Word) :
    (m.storeContent start c).read x =
      if start.toNat ≤ x.toNat then
        (wordsOfBytes c.toList)[x.toNat - start.toNat]?.getD (m.read x)
      else m.read x := by
  have hlength : (wordsOfBytes c.toList).length = c.wordCount := by
    rw [length_wordsOfBytes, Content.length_toList, Content.wordCount]
  rw [read_storeContent]
  by_cases hstart : start.toNat ≤ x.toNat
  · rw [if_pos hstart]
    by_cases hcount : x.toNat - start.toNat < c.wordCount
    · rw [if_pos ⟨hstart, hcount⟩, imageWord, if_pos hstart, ← wordOfBytes_eq,
        List.getElem?_eq_getElem (by omega), Option.getD_some, getElem_wordsOfBytes]
    · rw [if_neg (fun h => hcount h.2), List.getElem?_eq_none (by omega), Option.getD_none]
  · rw [if_neg (fun h => hstart h.1), if_neg hstart]

/-- At the first word and behind it, a transfer leaves what loading leaves. -/
theorem Memory.read_writeAll_of_le {m : Memory} {start x : Word} {c : Content}
    (hlen : (wordsOfBytes c.toList).length ≤ 65536) (hx : start ≤ x) :
    (m.writeAll start (wordsOfBytes c.toList)).read x = (m.storeContent start c).read x := by
  have hx' : start.toNat ≤ x.toNat := UInt16.le_iff_toNat_le.1 hx
  rw [read_writeAll_eq hlen, read_storeContent_words, if_pos hx', UInt16.toNat_sub_of_le _ _ hx]

/-- Before the first word, a transfer leaves the words that have come around the end of memory. -/
theorem Memory.read_writeAll_of_lt {m : Memory} {start x : Word} {words : List Word}
    (hlen : words.length ≤ 65536) (hx : x < start) :
    (m.writeAll start words).read x =
      words[65536 - start.toNat + x.toNat]?.getD (m.read x) := by
  have hx' : x.toNat < start.toNat := UInt16.lt_iff_toNat_lt.1 hx
  have hstart := start.toNat_lt
  have hbehind : (x - start).toNat = 65536 - start.toNat + x.toNat := by
    rw [UInt16.toNat_sub]
    omega
  rw [read_writeAll_eq hlen, hbehind]

/-- The words that have come around are at address zero and behind. -/
theorem Memory.read_writeAll_around {m : Memory} {start : Word} {words : List Word} {j : ℕ}
    (hlen : words.length ≤ 65536) (hj : 65536 - start.toNat + j < words.length) :
    (m.writeAll start words).read (UInt16.ofNat j) = words[65536 - start.toNat + j] := by
  have hstart := start.toNat_lt
  have hplace : (UInt16.ofNat j).toNat = j := UInt16.toNat_ofNat_of_lt' (show j < 65536 by omega)
  have hbelow : UInt16.ofNat j < start := by
    rw [UInt16.lt_iff_toNat_lt, hplace]
    omega
  rw [read_writeAll_of_lt hlen hbelow, hplace, List.getElem?_eq_getElem hj, Option.getD_some]

/-- **An image that fits is loaded as it is transferred.** -/
theorem Memory.storeContent_eq_writeAll {m : Memory} {start : Word} {c : Content}
    (hend : start.toNat + (wordsOfBytes c.toList).length ≤ 65536) :
    m.storeContent start c = m.writeAll start (wordsOfBytes c.toList) := by
  apply Memory.ext
  intro x
  rcases Nat.lt_or_ge x.toNat start.toNat with hx | hx
  · rw [read_writeAll_of_lt (by omega) (UInt16.lt_iff_toNat_lt.2 hx), read_storeContent_words,
      if_neg (by omega), List.getElem?_eq_none (by omega), Option.getD_none]
  · exact (read_writeAll_of_le (by omega) (UInt16.le_iff_toNat_le.2 hx)).symm

namespace Activity

variable {S : Type} [Cabinet S] {s next : Activity S} {device : UInt8} {sector : Sector}
  {unit : Mounted S} {offset : UInt64} {n : ℕ}

/-- **A read order that succeeds transfers the bytes that the image has** at the record's offset. -/
theorem memory_of_read {bytes : List UInt8} (horder : s.order? = some (.read sector))
    (hoffset : s.controller.geometry.byteOffset? sector.track sector.head sector.record =
      some offset)
    (hmounted : s.controller.mount.mounted = some unit) (hcount : s.wordsLeft = n)
    (hsize : bytes.length = 2 * n) (hholds : HoldsAt unit.image offset bytes)
    (hnext : (s.step device).2 = .running next) :
    next.machine.memory = s.machine.memory.writeAll s.dmaAddress (wordsOfBytes bytes) := by
  have hperform := (step_of_order device horder).1.symm.trans hnext
  obtain ⟨after, hread, rfl⟩ := running_of_read hperform
  have hleft : s.countExecuted.wordsLeft = n := hcount
  -- the order asks for as many bytes as the image has there, so what comes are these
  have hlength : 2 * s.countExecuted.wordsLeft.toNat = bytes.length := by omega
  rcases hfetch : unit.fetch offset bytes.length with ⟨fetched, unit'⟩
  rw [← hlength] at hfetch
  rw [read_of_mounted (s := s.countExecuted) hoffset hmounted (by omega) hfetch] at hread
  rw [hlength] at hfetch
  cases fetched with
  | error fault => simp [afterFetch] at hread
  | ok got =>
    obtain rfl := fetch_of_holdsAt hholds hfetch
    rw [afterFetch, Except.ok.injEq] at hread
    subst hread
    rfl

/-- **Read orders and loaded images pack words alike.** Take a read order of a record at an offset
where the open image has some bytes, twice as many as the selected channel asks for words. If the
order succeeds and the words end before memory does, it leaves the memory that loading the bytes at
the channel's address leaves, and there the words are these bytes. If the words go on behind the end
of memory, the two memories are the same from that address on. Below it, loading changes nothing,
and the read order puts the words that are left at address zero and behind. -/
theorem read_loads {b : Content} (horder : s.order? = some (.read sector))
    (hoffset : s.controller.geometry.byteOffset? sector.track sector.head sector.record =
      some offset)
    (hmounted : s.controller.mount.mounted = some unit) (hcount : s.wordsLeft = n)
    (hsize : b.size = 2 * n) (hholds : HoldsAt unit.image offset b.toList)
    (hnext : (s.step device).2 = .running next) :
    let start := s.dmaAddress
    let loaded := s.machine.memory.storeContent start b
    (start.toNat + n ≤ 65536 →
      next.machine.memory = loaded ∧
      (next.machine.memory.words start n).flatMap bytesOfWord = b.toList) ∧
    (65536 < start.toNat + n →
      (∀ x, start ≤ x → next.machine.memory.read x = loaded.read x) ∧
      (∀ x < start, loaded.read x = s.machine.memory.read x) ∧
      (∀ j, 65536 - start.toNat + j < n →
        next.machine.memory.read (UInt16.ofNat j) = b.word (65536 - start.toNat + j)) ∧
      ∀ x < start, n ≤ 65536 - start.toNat + x.toNat →
        next.machine.memory.read x = s.machine.memory.read x) := by
  intro start loaded
  have hbytes : b.toList.length = 2 * n := by rw [Content.length_toList, hsize]
  have hlength : (wordsOfBytes b.toList).length = n := by
    rw [length_wordsOfBytes, hbytes]
    omega
  -- a count register asks for few words, so they stop short of where they began
  have hn : n ≤ 2048 := by
    have hle := Dma.wordsLeft_le (s.machine.dmaRegister s.countIndex)
    rw [wordsLeft] at hcount
    omega
  have hmemory := memory_of_read horder hoffset hmounted hcount hbytes hholds hnext
  have hstart := start.toNat_lt
  constructor
  · intro hend
    have hfits : start.toNat + (wordsOfBytes b.toList).length ≤ 65536 := by omega
    have hwords := Memory.words_writeAll (m := s.machine.memory) hfits
    rw [hlength] at hwords
    refine ⟨hmemory.trans (Memory.storeContent_eq_writeAll hfits).symm, ?_⟩
    rw [hmemory, hwords]
    exact bytesOfWords_wordsOfBytes _ (by omega)
  · intro hend
    rw [hmemory]
    refine ⟨?_, ?_, ?_, ?_⟩
    · intro x hx
      exact Memory.read_writeAll_of_le (by omega) hx
    · intro x hx
      have hx' : x.toNat < start.toNat := UInt16.lt_iff_toNat_lt.1 hx
      rw [Memory.read_storeContent_words, if_neg (by omega)]
    · intro j hj
      have hall : 65536 - start.toNat + j < (wordsOfBytes b.toList).length := by omega
      rw [Memory.read_writeAll_around (by omega) hall, getElem_wordsOfBytes,
        Content.getD_toList, Content.getD_toList, Content.word]
    · intro x hx hbehind
      rw [Memory.read_writeAll_of_lt (by omega) hx, List.getElem?_eq_none (by omega),
        Option.getD_none]

/-- An open image that brings its six bytes in threes and fails at the third call. -/
def inThrees : FaultyCabinet.Open where
  image :=
    { content := ⟨6, fun i => [9, 9, 1, 2, 3, 4].getD i 0⟩, portion := some 3,
      readFault := some (3, "bad track") }

/-- The last four of these bytes. -/
def recordOne : Content := ⟨4, fun i => [1, 2, 3, 4].getD i 0⟩

theorem holdsAt_inThrees : HoldsAt (S := FaultyCabinet) inThrees 2 recordOne.toList :=
  FaultyCabinet.holdsAt inThrees (by decide)

/-- The four bytes come in two calls, the second of them for what the first left. -/
theorem fetch_inThrees :
    ((⟨"unit", inThrees⟩ : Mounted FaultyCabinet).fetch 2 4).1 = .ok recordOne.toList := by
  simp [Mounted.fetch, Cabinet.fill, inThrees, Cabinet.seek, Cabinet.read, FaultyCabinet.Open.read,
    recordOne, Content.toList, Content.slice, List.range_succ, Except.map]

/-- An activity with that image open, before a read order of record 1 that asks for two words at
this address. -/
def readingInThrees (address : Word) : Activity FaultyCabinet where
  machine := (({ memory := Memory.zero.writeAll 0o1000 (Listing.wordsOf [.read ⟨0, 0, 0, 1⟩]) } :
    Machine).setDmaRegister 0 (Dma.countRegister 2)).setDmaRegister 1 address
  controller :=
    { cabinet := {}, mount := ⟨some ⟨"unit", inThrees⟩⟩, geometry := { sectorBytes := 2 } }
  registers := { address := 0o1000 }

theorem order?_readingInThrees (address : Word) :
    (readingInThrees address).order? = some (.read ⟨0, 0, 0, 1⟩) := by
  have hwords : (readingInThrees address).machine.memory.Has 0o1000
      (Listing.wordsOf [.read ⟨0, 0, 0, 1⟩]) :=
    Memory.has_writeAll (by decide)
  have hfits : ∀ o ∈ [Order.read ⟨0, 0, 0, 1⟩], o.Fits := by
    simp [Order.Fits, Sector.Fits]
  exact Listing.order?_of_has hwords hfits rfl

theorem wordsLeft_readingInThrees (address : Word) :
    (readingInThrees address).wordsLeft = (2 : ℕ) := by
  have hindex : (readingInThrees address).countIndex = 0 := show Dma.countIndex 0 = 0 by decide
  have hregister : (readingInThrees address).machine.dmaRegister 0 = Dma.countRegister 2 := by
    simp [readingInThrees, Machine.dmaRegister_setDmaRegister]
  rw [wordsLeft, hindex, hregister]
  decide

theorem dmaAddress_readingInThrees (address : Word) :
    (readingInThrees address).dmaAddress = address := by
  have hindex : (readingInThrees address).countIndex = 0 := show Dma.countIndex 0 = 0 by decide
  rw [dmaAddress, hindex]
  simp [readingInThrees, Machine.dmaRegister_setDmaRegister]

theorem step_readingInThrees (address : Word) :
    ∃ next, ((readingInThrees address).step 0o26).2 = .running next := by
  have hleft : (readingInThrees address).countExecuted.wordsLeft = (2 : ℕ) :=
    wordsLeft_readingInThrees address
  have hfetch : ((⟨"unit", inThrees⟩ : Mounted FaultyCabinet).fetch 2
      (2 * (readingInThrees address).countExecuted.wordsLeft.toNat)).1 = .ok recordOne.toList := by
    rw [hleft]
    exact fetch_inThrees
  have hread : ((readingInThrees address).countExecuted.read ⟨0, 0, 0, 1⟩).2 = _ :=
    read_of_mounted (s := (readingInThrees address).countExecuted) rfl rfl (by omega)
      (Prod.ext hfetch rfl)
  exact ⟨_, (step_of_order 0o26 (order?_readingInThrees address)).1.trans
    (perform_of_read_ok 0o26 hread)⟩

theorem read_loads_inThrees :
    (∃ next, ((readingInThrees 0o177776).step 0o26).2 = .running next ∧
      (next.machine.memory.words 0o177776 2).flatMap bytesOfWord = [1, 2, 3, 4]) ∧
    ∃ next, ((readingInThrees 0o177777).step 0o26).2 = .running next ∧
      next.machine.memory.read 0o177777 = 0x0102 ∧ next.machine.memory.read 0 = 0x0304 := by
  constructor
  · obtain ⟨next, hnext⟩ := step_readingInThrees 0o177776
    obtain ⟨-, hwords⟩ := (read_loads (order?_readingInThrees _) rfl rfl
      (wordsLeft_readingInThrees _) rfl holdsAt_inThrees hnext).1
      (by rw [dmaAddress_readingInThrees]; decide)
    rw [dmaAddress_readingInThrees] at hwords
    exact ⟨next, hnext, hwords⟩
  · obtain ⟨next, hnext⟩ := step_readingInThrees 0o177777
    obtain ⟨hbehind, -, haround, -⟩ := (read_loads (order?_readingInThrees _) rfl rfl
      (wordsLeft_readingInThrees _) rfl holdsAt_inThrees hnext).2
      (by rw [dmaAddress_readingInThrees]; decide)
    rw [dmaAddress_readingInThrees] at hbehind haround
    have hfirst : (wordsOfBytes recordOne.toList)[0]? = some 0x0102 := by decide
    have hsecond : recordOne.word 1 = 0x0304 := by decide
    refine ⟨next, hnext, ?_, (haround 0 (by decide)).trans hsecond⟩
    rw [hbehind _ (Nat.le_refl _), Memory.read_storeContent_words, if_pos (Nat.le_refl _),
      Nat.sub_self, hfirst, Option.getD_some]

end Activity

end PeripheralBus
