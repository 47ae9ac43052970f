import PeripheralBus.Proofs.Word

/-!
# Memory after a transfer

Words written at rising addresses, which go on from zero after the last address, and the words that
pairs of bytes make.

* `Memory.read_writeAll`: each written word is read back at its address, as long as the words do
  not come around to their start.
* `Memory.read_writeAll_of_ne`: no other word changes.
* `Memory.read_writeAll_eq`: both, by how far an address is behind the first.
* `Memory.words_eq_map_range'`: the words of a range by their addresses.
* `Memory.words_writeAll`: words that do not come around the end of memory are looked at together.
* `Memory.Has`: words stand in memory from an address on.
* `getElem_wordsOfBytes`: word `i` is made of the bytes `2i` and `2i + 1`.
* `bytesOfWords_wordsOfBytes`: written out as bytes again, words are the bytes that made them.
-/

namespace PeripheralBus

namespace Memory

/-- A word that is at none of the addresses stays. -/
theorem read_writeAll_of_ne {m : Memory} {a place : Word} {words : List Word}
    (h : ∀ i < words.length, place ≠ a + UInt16.ofNat i) :
    (m.writeAll a words).read place = m.read place := by
  induction words generalizing m a with
  | nil => rfl
  | cons w rest ih =>
    have hrest : ∀ i < rest.length, place ≠ a + 1 + UInt16.ofNat i := by
      intro i hi
      rw [← add_ofNat_succ]
      exact h (i + 1) (by simpa using hi)
    have hplace : place ≠ a := by simpa using h 0 (by simp)
    rw [writeAll, ih hrest, read_write, if_neg hplace]

/-- **Written words are read back.** -/
theorem read_writeAll {m : Memory} {a : Word} {words : List Word} (hlen : words.length ≤ 65536)
    {i : ℕ} (hi : i < words.length) :
    (m.writeAll a words).read (a + UInt16.ofNat i) = words[i] := by
  induction words generalizing m a i with
  | nil => simp at hi
  | cons w rest ih =>
    simp only [List.length_cons] at hlen hi
    rw [writeAll]
    cases i with
    | zero =>
      -- the words behind the first one stop short of its address
      have hne : ∀ j < rest.length, a + UInt16.ofNat 0 ≠ a + 1 + UInt16.ofNat j := by
        intro j hj
        rw [← add_ofNat_succ, ne_eq, ← UInt16.toNat_inj]
        simp only [UInt16.toNat_add, UInt16.toNat_ofNat']
        omega
      rw [read_writeAll_of_ne hne, read_write, if_pos (by simp)]
      rfl
    | succ i =>
      rw [add_ofNat_succ, ih (by omega) (by omega)]
      rfl

/-- **Memory after words were written**, by how far an address is behind the first, around the end
of memory if need be. -/
theorem read_writeAll_eq {m : Memory} {a : Word} {words : List Word} (hlen : words.length ≤ 65536)
    (x : Word) :
    (m.writeAll a words).read x = words[(x - a).toNat]?.getD (m.read x) := by
  have hx : a + UInt16.ofNat (x - a).toNat = x := by
    rw [UInt16.ofNat_toNat, UInt16.add_comm, UInt16.sub_add_cancel]
  by_cases hword : (x - a).toNat < words.length
  · have hread := read_writeAll (m := m) (a := a) hlen hword
    rw [hx] at hread
    rw [hread, List.getElem?_eq_getElem hword, Option.getD_some]
  · have hne : ∀ i < words.length, x ≠ a + UInt16.ofNat i := by
      rintro i hi rfl
      rw [UInt16.add_comm, UInt16.add_sub_cancel, UInt16.toNat_ofNat_of_lt'
        (show i < 65536 by omega)] at hword
      exact hword hi
    rw [read_writeAll_of_ne hne, List.getElem?_eq_none (Nat.le_of_not_lt hword), Option.getD_none]

/-- Words that are looked at together, by their addresses. -/
theorem words_eq_map_range' (m : Memory) (a : Word) (count : ℕ) :
    m.words a count = (List.range' a.toNat (min count (65536 - a.toNat))).map
      fun x => m.read (UInt16.ofNat x) := by
  rw [Memory.words, List.range'_eq_map_range, List.map_map]
  refine List.map_congr_left fun i _ => ?_
  rw [Function.comp_apply, UInt16.ofNat_add, UInt16.ofNat_toNat]

/-- **Written words are looked at together**, when they end before memory does. -/
theorem words_writeAll {m : Memory} {a : Word} {words : List Word}
    (hend : a.toNat + words.length ≤ 65536) :
    (m.writeAll a words).words a words.length = words := by
  have hall : min words.length (65536 - a.toNat) = words.length := by omega
  rw [Memory.words, hall]
  apply List.ext_getElem
  · simp
  · intro i hi hi'
    simpa using read_writeAll (m := m) (a := a) (by omega) hi'

/-- These words stand in memory from an address on, around the end of memory if need be. -/
def Has (m : Memory) (a : Word) (words : List Word) : Prop :=
  ∀ (i : ℕ) word, words[i]? = some word → m.read (a + UInt16.ofNat i) = word

theorem has_writeAll {m : Memory} {a : Word} {words : List Word} (hlen : words.length ≤ 65536) :
    (m.writeAll a words).Has a words := by
  intro i word hword
  obtain ⟨hi, rfl⟩ := List.getElem?_eq_some_iff.1 hword
  exact read_writeAll hlen hi

/-- Words stay where they are when their cells do. -/
theorem Has.of_eq {m m' : Memory} {a : Word} {words : List Word} (h : m.Has a words)
    (hsame : ∀ i < words.length, m'.read (a + UInt16.ofNat i) = m.read (a + UInt16.ofNat i)) :
    m'.Has a words := by
  intro i word hword
  have hi : i < words.length := (List.getElem?_eq_some_iff.1 hword).1
  rw [hsame i hi]
  exact h i word hword

end Memory

/-- **Word `i` of bytes** is made of the bytes `2i` and `2i + 1`, or of a zero where these end. -/
theorem getElem_wordsOfBytes : ∀ (bytes : List UInt8) (i : ℕ) (h : i < (wordsOfBytes bytes).length),
    (wordsOfBytes bytes)[i] = wordOfBytes (bytes.getD (2 * i) 0) (bytes.getD (2 * i + 1) 0)
  | [], i, h => by simp [wordsOfBytes] at h
  | [high], i, h => by
    obtain rfl : i = 0 := by simpa [wordsOfBytes] using h
    rfl
  | high :: low :: rest, 0, _ => rfl
  | high :: low :: rest, i + 1, h => by
    have h' : i < (wordsOfBytes rest).length := by simpa [wordsOfBytes] using h
    simpa [wordsOfBytes, Nat.mul_add] using getElem_wordsOfBytes rest i h'

/-- The two bytes of a word, the high one first. -/
def bytesOfWord (w : Word) : List UInt8 := [(w >>> 8).toUInt8, w.toUInt8]

theorem bytesOfWord_wordOfBytes (high low : UInt8) :
    bytesOfWord (wordOfBytes high low) = [high, low] := by
  have hvalue := toNat_wordOfBytes high low
  have hhigh := high.toNat_lt
  have hlow := low.toNat_lt
  simp only [bytesOfWord, List.cons.injEq, and_true, ← UInt8.toNat_inj, UInt16.toNat_toUInt8,
    UInt16.toNat_shiftRight, UInt16.toNat_ofNat, Nat.shiftRight_eq_div_pow, hvalue, Nat.reducePow,
    Nat.reduceMod]
  omega

/-- **Words that pairs of bytes made are written out as these bytes.** -/
theorem bytesOfWords_wordsOfBytes : ∀ bytes : List UInt8, bytes.length % 2 = 0 →
    (wordsOfBytes bytes).flatMap bytesOfWord = bytes
  | [], _ => rfl
  | [_], h => by simp at h
  | high :: low :: rest, h => by
    have hrest : rest.length % 2 = 0 := by
      simp only [List.length_cons] at h
      omega
    rw [wordsOfBytes, List.flatMap_cons, bytesOfWord_wordOfBytes,
      bytesOfWords_wordsOfBytes rest hrest]
    rfl

end PeripheralBus
