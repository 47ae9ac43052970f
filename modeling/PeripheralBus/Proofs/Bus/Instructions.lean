import PeripheralBus.Proofs.Bus.Geometry
import PeripheralBus.Proofs.Channel.RoundTrip

/-!
# Instruction words on the bus

There are two ways to an I/O instruction: as its fields, and as the word that they make. A word
without the fixed pattern is refused, and any other one is carried out as its fields. A word made of
fields always has the pattern, so it is never refused, and since a device address has six bits
there are words for every device.

* `Instruction.Encoded`: **the fields of an instruction word**, in arithmetic.
* `Instruction.ofWord?_eq_some_iff`, `Instruction.encoded_toWord`: words are taken apart into these
  fields and made of them.
* `Instruction.Encoded.toWord_eq`: the fields of a word make the word.
* `Device.perform_ofInstruction`: no device takes a word for none.
* `Bus.execute_dispatch`: both ways side by side.
-/

namespace PeripheralBus

open Line Pack

namespace Kind

theorem number_lt (k : Kind) : k.number.toNat < 4 := by
  cases k <;> decide

/-- The kinds are numbered from zero to three. -/
theorem ofNumber?_eq_some_iff {n : UInt8} {k : Kind} : ofNumber? n = some k ↔ n = k.number := by
  constructor
  · intro h
    unfold ofNumber? at h
    split at h <;> cases h
    all_goals exact UInt8.toNat_inj.1 ‹_›
  · rintro rfl
    cases k <;> rfl

theorem exists_of_number {n : UInt8} (h : n.toNat < 4) : ∃ k : Kind, n = k.number := by
  have hcases : n.toNat = 0 ∨ n.toNat = 1 ∨ n.toNat = 2 ∨ n.toNat = 3 := by omega
  simp only [← UInt8.toNat_inj]
  rcases hcases with h | h | h | h
  · exact ⟨.control, h⟩
  · exact ⟨.sense, h⟩
  · exact ⟨.input, h⟩
  · exact ⟨.output, h⟩

end Kind

namespace Instruction

/-! ## The fields of a word -/

/-- Bits 13 to 10 of a word are the fixed pattern. -/
def HasPattern (word : Word) : Prop := word.toNat / 2 ^ 10 % 16 = 0b1100

/-- **The fields of an instruction word**: the fixed pattern, the kind in the two bits above it, and
function and device in the four and six bits below. -/
structure Encoded (word : Word) (i : Instruction) : Prop where
  pattern : HasPattern word
  kind : i.kind.number.toNat = word.toNat / 2 ^ 14
  function : i.function.toNat = word.toNat / 2 ^ 6 % 16
  device : i.device.toNat = word.toNat % 64

theorem and_patternMask {word : Word} : word &&& patternMask = pattern ↔ HasPattern word := by
  have hmask : patternMask = bits 13 10 := by decide
  rw [← UInt16.toNat_inj, hmask, toNat_and_bits word (by decide) (by decide), HasPattern]
  show _ = 12 * 2 ^ 10 ↔ _
  omega

/-- The words that have the pattern, and no others, are taken apart into their fields. -/
theorem ofWord?_eq_some_iff {word : Word} {i : Instruction} :
    ofWord? word = some i ↔ Encoded word i := by
  have hword := word.toNat_lt
  have hkind : (word >>> 14).toUInt8.toNat = word.toNat / 2 ^ 14 := by
    simp [Nat.shiftRight_eq_div_pow]
    omega
  have hfunction : ((word >>> 6) &&& 0o17).toUInt8.toNat = word.toNat / 2 ^ 6 % 16 := by
    rw [UInt16.toNat_toUInt8, toNat_and_low 4 (by decide)]
    simp only [UInt16.toNat_shiftRight, UInt16.toNat_ofNat, Nat.shiftRight_eq_div_pow,
      Nat.reducePow, Nat.reduceMod]
    omega
  have hdevice : (word &&& 0o77).toUInt8.toNat = word.toNat % 64 := by
    rw [UInt16.toNat_toUInt8, toNat_and_low 6 (by decide)]
    omega
  obtain ⟨kind, function, device⟩ := i
  unfold ofWord?
  split
  · -- there is a kind for each number of two bits, so the pattern alone decides
    rename_i hp
    rw [Option.map_eq_some_iff]
    constructor
    · rintro ⟨k, hk, ⟨⟩⟩
      rw [Kind.ofNumber?_eq_some_iff] at hk
      exact ⟨and_patternMask.1 hp, by rw [← hk, hkind], hfunction, hdevice⟩
    · rintro ⟨-, hk, hf, hd⟩
      refine ⟨kind, Kind.ofNumber?_eq_some_iff.2 (UInt8.toNat_inj.1 (hkind.trans hk.symm)), ?_⟩
      rw [UInt8.toNat_inj.1 (hfunction.trans hf.symm), UInt8.toNat_inj.1 (hdevice.trans hd.symm)]
  · rename_i hp
    constructor
    · nofun
    · rintro ⟨hpattern, -⟩
      exact absurd (and_patternMask.2 hpattern) hp

/-- A word without the pattern is no instruction. -/
theorem ofWord?_eq_none {word : Word} (h : ¬ HasPattern word) : ofWord? word = none := by
  unfold ofWord?
  rw [if_neg (mt and_patternMask.1 h)]

/-- Every word with the pattern has its fields. -/
theorem exists_encoded {word : Word} (h : HasPattern word) : ∃ i, Encoded word i := by
  have hword := word.toNat_lt
  have hnumber : (UInt8.ofNat (word.toNat / 2 ^ 14)).toNat = word.toNat / 2 ^ 14 :=
    UInt8.toNat_ofNat_of_lt' (show _ < 256 by omega)
  obtain ⟨kind, hkind⟩ := Kind.exists_of_number (n := UInt8.ofNat (word.toNat / 2 ^ 14)) (by omega)
  refine ⟨⟨kind, UInt8.ofNat (word.toNat / 2 ^ 6 % 16), UInt8.ofNat (word.toNat % 64)⟩, h, ?_, ?_,
    ?_⟩
  · rw [← hkind, hnumber]
  · exact UInt8.toNat_ofNat_of_lt' (show _ < 256 by omega)
  · exact UInt8.toNat_ofNat_of_lt' (show _ < 256 by omega)

/-! ## Words made of fields -/

/-- **A word is made of its fields** and the pattern, each cut to its width. -/
theorem toNat_toWord (i : Instruction) :
    i.toWord.toNat = i.kind.number.toNat * 2 ^ 14 + 0b1100 * 2 ^ 10 +
      i.function.toNat % 16 * 2 ^ 6 + i.device.toNat % 64 := by
  have hkind := i.kind.number_lt
  have hnumber : (i.kind.number.toUInt16 <<< 14).toNat = 2 ^ 14 * i.kind.number.toNat :=
    toNat_shiftLeft_byte 14 rfl (by omega) (by omega)
  have hfour : (i.function &&& 0o17).toNat = i.function.toNat % 16 := by
    rw [UInt8.toNat_and]
    exact Nat.and_two_pow_sub_one_eq_mod _ 4
  have hfunction : ((i.function &&& 0o17).toUInt16 <<< 6).toNat =
      2 ^ 6 * (i.function.toNat % 16) := by
    rw [toNat_shiftLeft_byte 6 rfl (by omega) (by omega), hfour]
  have hdevice : (i.device &&& 0o77).toUInt16.toNat = i.device.toNat % 64 := by
    rw [UInt8.toNat_toUInt16, UInt8.toNat_and]
    exact Nat.and_two_pow_sub_one_eq_mod _ 6
  have hpattern : pattern.toNat = 2 ^ 10 * 0b1100 := rfl
  -- from the lowest field on, each one joins those below it
  rw [toWord, UInt16.toNat_or, UInt16.toNat_or, UInt16.toNat_or, hnumber, hpattern, hfunction,
    hdevice, Nat.or_comm, Nat.or_comm _ (2 ^ 6 * _), ← Nat.or_assoc, or_high 6 _ (by omega) rfl,
    Nat.or_comm (2 ^ 14 * _), ← Nat.or_assoc, or_high 10 _ (by omega) rfl,
    or_high 14 _ (by omega) rfl]
  omega

/-- The word that is made of some fields has them, cut to their widths. -/
theorem encoded_toWord (i : Instruction) :
    Encoded i.toWord ⟨i.kind, i.function % 16, i.device % 64⟩ := by
  have hword := i.toNat_toWord
  have hkind := i.kind.number_lt
  constructor
  · rw [HasPattern]
    omega
  · show i.kind.number.toNat = _
    omega
  · rw [UInt8.toNat_mod]
    show i.function.toNat % 16 = _
    omega
  · rw [UInt8.toNat_mod]
    show i.device.toNat % 64 = _
    omega

/-- **The fields of a word make the word.** -/
theorem Encoded.toWord_eq {word : Word} {i : Instruction} (h : Encoded word i) :
    i.toWord = word := by
  have hword := word.toNat_lt
  obtain ⟨hpattern, hkind, hfunction, hdevice⟩ := h
  rw [HasPattern] at hpattern
  rw [← UInt16.toNat_inj, toNat_toWord]
  omega

end Instruction

variable {T S : Type} [Terminal T] [Cabinet S] {limit : ℕ} {i : Instruction} {m : Machine}

/-! ## No device takes a word for none -/

/-- The fault tells of something else than a word that is no instruction. -/
def Fault.OfInstruction (fault : Fault) : Prop := ∀ word, fault ≠ .notAnInstruction word

theorem DeviceFault.ofInstruction {fault : Fault} (h : DeviceFault fault) :
    fault.OfInstruction := by
  rintro word rfl
  cases h

/-- A channel program fails with its own faults. -/
theorem Ending.ofInstruction {memory : Memory} {here : Word} {fault : Fault}
    (h : Ending memory here (.error fault)) : fault.OfInstruction := by
  rintro word rfl
  cases h with
  | read _ hfault => cases hfault

theorem Controller.perform_ofInstruction {c : Controller S} {r : Reply (Controller S)}
    (h : c.perform limit i m = some r) : r.FailsWith Fault.OfInstruction := by
  rcases perform_cases h with ⟨-, hfails⟩ | ⟨events, last, hrun, rfl⟩
  · intro fault hfault
    obtain rfl := hfails fault hfault
    exact (DeviceFault.unsupported i).ofInstruction
  · obtain ⟨visited, t, -, hlast, -⟩ := run_eq_some_iff.1 hrun
    obtain ⟨-, -, -, hending⟩ := Activity.step_ended hlast
    refine failsWith_programReply fun fault hfault => ?_
    rw [hfault] at hending
    exact hending.ofInstruction

/-- **No device takes a word for none.** -/
theorem Device.perform_ofInstruction {d : Device T S} {willRetry : Bool} {r : Reply (Device T S)}
    (h : d.perform limit i willRetry m = some r) : r.FailsWith Fault.OfInstruction :=
  perform_failsWith (fun _ => DeviceFault.ofInstruction)
    (fun c _ _ hreply => c.perform_ofInstruction hreply) h

namespace Bus

variable {b : Bus T S}

theorem dispatch_ofInstruction {r : Reply (Bus T S)} (h : b.dispatch limit i m = some r) :
    r.FailsWith Fault.OfInstruction := by
  obtain ⟨reply, hreply, rfl⟩ := Option.map_eq_some_iff.1 h
  exact Device.perform_ofInstruction hreply

/-! ## Both ways to an instruction -/

/-- A word is carried out as its fields. -/
theorem execute_of_encoded {word : Word} (b : Bus T S) (limit : ℕ) (m : Machine)
    (h : Instruction.Encoded word i) : b.execute limit word m = b.dispatch limit i m := by
  rw [execute, Instruction.ofWord?_eq_some_iff.2 h]

/-- A word that is made of fields is carried out as those, cut to their widths. -/
theorem execute_toWord (b : Bus T S) (limit : ℕ) (i : Instruction) (m : Machine) :
    b.execute limit i.toWord m = b.dispatch limit ⟨i.kind, i.function % 16, i.device % 64⟩ m :=
  b.execute_of_encoded limit m i.encoded_toWord

/-- **Executing a word is dispatching its fields**, on every bus, for every machine. A word without
the pattern is refused, and nothing is changed. Any other word has fields that make it, and is
carried out as they are. A word made of whatever fields is carried out as those, function modulo 16
and device modulo 64, and not refused. So there are words for each device that was attached. -/
theorem execute_dispatch (b : Bus T S) (limit : ℕ) (m : Machine) :
    (∀ word : Word, word.toNat / 2 ^ 10 % 16 ≠ 0b1100 → b.execute limit word m =
      some { result := .error (.notAnInstruction word), device := b, machine := m }) ∧
    (∀ word : Word, word.toNat / 2 ^ 10 % 16 = 0b1100 → ∃ i : Instruction,
      i.kind.number.toNat = word.toNat / 2 ^ 14 ∧ i.function.toNat = word.toNat / 2 ^ 6 % 16 ∧
      i.device.toNat = word.toNat % 64 ∧ i.toWord = word ∧
      b.execute limit word m = b.dispatch limit i m) ∧
    (∀ i : Instruction,
      b.execute limit i.toWord m = b.dispatch limit ⟨i.kind, i.function % 16, i.device % 64⟩ m ∧
      ∀ r, b.execute limit i.toWord m = some r →
        ∀ word, r.result ≠ .error (.notAnInstruction word)) ∧
    ∀ address d events after, b.attach address d = .ok (events, after) →
      after.device address = d ∧ ∀ kind function,
        after.execute limit (Instruction.toWord ⟨kind, function, address⟩) m =
          after.dispatch limit ⟨kind, function % 16, address⟩ m := by
  refine ⟨?_, ?_, ?_, ?_⟩
  · intro word hpattern
    rw [execute, Instruction.ofWord?_eq_none hpattern]
  · intro word hpattern
    obtain ⟨i, hi⟩ := Instruction.exists_encoded hpattern
    exact ⟨i, hi.kind, hi.function, hi.device, hi.toWord_eq, b.execute_of_encoded limit m hi⟩
  · intro i
    refine ⟨b.execute_toWord limit i m, fun r hr word hresult => ?_⟩
    rw [execute_toWord] at hr
    exact dispatch_ofInstruction hr _ hresult word rfl
  · intro address d events after hattach
    unfold attach at hattach
    by_cases haddress : address.toNat < 64
    · rw [if_pos haddress] at hattach
      obtain ⟨-, rfl⟩ := Prod.mk.inj (Except.ok.inj hattach)
      -- an address that takes a device is not cut
      have hplace : address % 64 = address := by
        rw [← UInt8.toNat_inj, UInt8.toNat_mod]
        exact Nat.mod_eq_of_lt haddress
      refine ⟨?_, fun kind function => ?_⟩
      · rw [device_set b address address d haddress, if_pos rfl]
      · have hexecute := (b.set address d).execute_toWord limit ⟨kind, function, address⟩ m
        rwa [hplace] at hexecute
    · rw [if_neg haddress] at hattach
      cases hattach

/-- A control panel that was attached at address 20 is told by a word to bring its switches. -/
theorem execute_dispatch_panel : ∃ events after,
    ({} : Bus KeyboardTerminal MemoryCabinet).attach 0o20 (.panel { switches := 0o1234 }) =
        .ok (events, after) ∧
      (∃ r, after.execute 1 0o131620 {} = some r ∧ r.result = .ok () ∧ r.machine.a = 0o1234) ∧
      (∃ i : Instruction, i.function.toNat = 0o16 ∧ i.toWord = 0o131620) ∧
      (after.execute 1 0o3776 {}).map (·.result) = some (.error (.notAnInstruction 0o3776)) := by
  let panel : Device KeyboardTerminal MemoryCabinet := .panel { switches := 0o1234 }
  let after : Bus KeyboardTerminal MemoryCabinet := ({} : Bus _ _).set 0o20 panel
  obtain ⟨hdevice, hreach⟩ :=
    (execute_dispatch ({} : Bus _ _) 1 {}).2.2.2 0o20 panel _ after rfl
  obtain ⟨hrefused, hfields, -, -⟩ := execute_dispatch after 1 {}
  obtain ⟨i, -, hfunction, -, hword, -⟩ := hfields 0o131620 (by decide)
  have hwords : Instruction.toWord ⟨.input, 0o16, 0o20⟩ = 0o131620 := by decide
  have hexecute := hreach .input 0o16
  rw [hwords, dispatch, hdevice] at hexecute
  refine ⟨_, after, rfl, ⟨_, hexecute, rfl, rfl⟩, ⟨i, hfunction.trans (by decide), hword⟩, ?_⟩
  rw [hrefused 0o3776 (by decide)]
  rfl

end Bus

end PeripheralBus
