import PeripheralBus.Host.Content
import PeripheralBus.Proofs.Word

/-!
# Loaded images

An image is loaded word by word from an address on: each two bytes make a word, the first of them
its high half, a lone last byte is a high half, and what would come after the last address is
dropped.

* `Memory.read_storeFrom`: what is read after words were stored.
* `imageWord`: the word that an image has at an address.
* `Memory.read_storeContent`: **memory after loading** has the words of the image, and is as before
  elsewhere.
-/

namespace PeripheralBus

open Host

/-- **Stored words are read back**, as far as memory goes, and all else is as before. -/
theorem Memory.read_storeFrom (m : Memory) (place : ℕ) (words : List Word) (x : Word) :
    (m.storeFrom place words).read x =
      if place ≤ x.toNat then words[x.toNat - place]?.getD (m.read x) else m.read x := by
  induction words generalizing m place with
  | nil => simp [storeFrom]
  | cons w rest ih =>
    have hx : x.toNat < 65536 := x.toNat_lt
    rw [storeFrom]
    by_cases h : place < 65536
    · have hread : read ⟨m.cells.set place w h⟩ x = if place = x.toNat then w else m.read x := by
        simp only [read, Vector.getElem_set]
      rw [dif_pos h, ih, hread]
      rcases Nat.lt_trichotomy place x.toNat with hlt | rfl | hgt
      · -- behind the first word: the word is one of the rest
        have hsub : x.toNat - place = x.toNat - (place + 1) + 1 := by omega
        rw [if_pos (Nat.succ_le_of_lt hlt), if_pos (Nat.le_of_lt hlt), if_neg (Nat.ne_of_lt hlt),
          hsub, List.getElem?_cons_succ]
      · rw [if_neg (by omega), if_pos rfl, if_pos (Nat.le_refl _), Nat.sub_self]
        rfl
      · rw [if_neg (by omega), if_neg (by omega), if_neg (by omega)]
    · rw [dif_neg h, if_neg (by omega)]

@[simp] theorem Host.Content.length_toList (c : Content) : c.toList.length = c.size := by
  simp [toList, slice]

/-- The bytes of a content as a list, with zeros past the end. -/
theorem Host.Content.getD_toList (c : Content) (i : ℕ) : c.toList.getD i 0 = c.byteAt i := by
  rw [byteAt, List.getD_eq_getElem?_getD]
  by_cases h : i < c.size <;> simp [toList, slice, h]

theorem wordOfBytes_eq (high low : UInt8) :
    wordOfBytes high low = UInt16.ofNat (high.toNat * 256 + low.toNat) := by
  rw [← toNat_wordOfBytes, UInt16.ofNat_toNat]

/-- **The word that an image has at an address** when it is loaded from `start` on: two of its
bytes, the first of them the high half. Bytes past the end of the image are zero, and so is all in
front of it. -/
def imageWord (start : Word) (bytes : List UInt8) (x : Word) : Word :=
  let i := 2 * (x.toNat - start.toNat)
  if start.toNat ≤ x.toNat then
    UInt16.ofNat ((bytes.getD i 0).toNat * 256 + (bytes.getD (i + 1) 0).toNat)
  else 0

/-- **Memory after loading.** The words of the image are at their addresses, as far as memory goes,
and all else is as before. -/
theorem Memory.read_storeContent (m : Memory) (start : Word) (c : Content) (x : Word) :
    (m.storeContent start c).read x =
      if start.toNat ≤ x.toNat ∧ x.toNat - start.toNat < c.wordCount then
        imageWord start c.toList x
      else m.read x := by
  have hx : x.toNat < 65536 := x.toNat_lt
  rw [storeContent, read_storeFrom]
  by_cases hstart : start.toNat ≤ x.toNat
  · rw [if_pos hstart]
    by_cases hcount : x.toNat - start.toNat < c.wordCount
    · have hword : (c.words (65536 - start.toNat))[x.toNat - start.toNat]? =
          some (c.word (x.toNat - start.toNat)) := by
        have hrange : x.toNat - start.toNat < min (65536 - start.toNat) c.wordCount := by omega
        simp [Content.words, hrange]
      rw [if_pos ⟨hstart, hcount⟩, hword, Option.getD_some, imageWord, if_pos hstart,
        Content.getD_toList, Content.getD_toList, Content.word, wordOfBytes_eq]
    · have hnone : (c.words (65536 - start.toNat))[x.toNat - start.toNat]? = none := by
        have hrange : ¬ x.toNat - start.toNat < min (65536 - start.toNat) c.wordCount := by omega
        simpa [Content.words] using hrange
      rw [if_neg (by omega), hnone, Option.getD_none]
  · rw [if_neg hstart, if_neg (by omega)]

/-- An image has no word where all its bytes are past their end. -/
theorem imageWord_of_le {start x : Word} {c : Content}
    (h : c.wordCount ≤ x.toNat - start.toNat) : imageWord start c.toList x = 0 := by
  have hend : c.toList.length ≤ 2 * (x.toNat - start.toNat) := by
    rw [Content.wordCount] at h
    rw [Content.length_toList]
    omega
  rw [imageWord]
  split
  · rw [List.getD_eq_default _ _ hend, List.getD_eq_default _ _ (by omega)]
    rfl
  · rfl

/-- Memory that was zero has just the image after loading. -/
theorem Memory.read_storeContent_zero (start : Word) (c : Content) (x : Word) :
    (Memory.zero.storeContent start c).read x = imageWord start c.toList x := by
  rw [read_storeContent]
  split
  · rfl
  · rename_i h
    rw [read_zero]
    by_cases hstart : start.toNat ≤ x.toNat
    · rw [imageWord_of_le (by omega)]
    · rw [imageWord, if_neg hstart]

end PeripheralBus
