import Mathlib.Data.List.TakeDrop
import PeripheralBus.CommandLine.Report
import PeripheralBus.Proofs.CommandLine.Words
import PeripheralBus.Proofs.Memory

/-!
# Reading a dump

A dump has rows of eight words, each with the address of its first word. The addresses are counted
in sixteen bits, apart from the words, of which there are no more than memory has. They do not come
around, so a reader of the rows finds each word at its address.

* `Row`, `Row.read?`: a row of a dump, and how it is read.
* `Row.read?_dumpRow`: a printed row is read back.
* `Row.pairs`: the words of a row at their addresses.
* `label_dumpedRow`, `length_words_dumpedRow`: the address and the number of words of a row.
* `flatMap_pairs_dumpedRows`: **the rows of some words have these words, in order**.
* `reportLines_dump`: what a report says of memory.
-/

namespace PeripheralBus.CommandLine

/-- A row of a dump: the address of the first word, and the words. -/
structure Row where
  label : Word
  words : List Word
  deriving DecidableEq, Repr

/-- Reads an octal word. -/
def readWord? (text : List Char) : Option Word := (parseWord (String.ofList text)).toOption

namespace Row

/-- Reads a row: the address in octal, a colon, and behind a space the words in octal, with a space
between them. -/
def read? (line : String) : Option Row :=
  match line.toList.span (· ≠ ':') with
  | (label, ':' :: ' ' :: words) => do
    let label ← readWord? label
    let words ← (words.splitOn ' ').mapM readWord?
    return ⟨label, words⟩
  | _ => none

/-- The words of a row with their addresses, which follow one another from the label on. -/
def pairs (r : Row) : List (ℕ × Word) := (List.range' r.label.toNat r.words.length).zip r.words

end Row

/-! ## Rows of text -/

/-- A padded word is read back, behind an apostrophe or not. -/
theorem readWord?_padded (w : Word) {front : List Char} (hfront : front ∈ Numeral.fronts) :
    readWord? (front ++ (Octal.padded 6 w.toNat).toList) = some w := by
  have hparse : parseWord (String.ofList (front ++ (Octal.padded 6 w.toNat).toList)) = .ok w := by
    rw [parseWord_eq_ok_iff, String.toList_ofList]
    exact ⟨front, hfront, _, rfl, Numeral.spells_padded 6 w.toNat⟩
  rw [readWord?, hparse]
  rfl

/-- Neither a space nor a colon is a digit. -/
theorem not_mem_padded {n : ℕ} {c : Char} (hc : c = ' ' ∨ c = ':') :
    c ∉ (Octal.padded 6 n).toList := by
  intro hmem
  obtain ⟨hlow, hhigh⟩ := (Numeral.spells_padded 6 n).isDigit c hmem
  rcases hc with rfl | rfl
  · exact absurd hlow (by decide)
  · exact absurd hhigh (by decide)

/-- If each element is read back, all of them together are. -/
theorem mapM_map_eq_some {α β : Type} {print : α → β} {read : β → Option α} {l : List α}
    (h : ∀ x ∈ l, read (print x) = some x) : (l.map print).mapM read = some l := by
  induction l with
  | nil => rfl
  | cons x rest ih =>
    rw [List.map_cons, List.mapM_cons, h x List.mem_cons_self,
      ih fun y hy => h y (List.mem_cons_of_mem x hy)]
    rfl

theorem toList_dumpRow (address : Word) (words : List Word) :
    (dumpRow address words).toList =
      (['\x27'] ++ (Octal.padded 6 address.toNat).toList) ++ ':' :: ' ' ::
        [' '].intercalate (words.map fun w => (Octal.padded 6 w.toNat).toList) := by
  simp [dumpRow, toString, String.toList_intercalate, Function.comp_def]

/-- A row is read at its first colon. -/
theorem Row.read?_of_toList {line : String} {label body : List Char} {address : Word}
    {words : List Word} (hline : line.toList = label ++ ':' :: ' ' :: body) (hcolon : ':' ∉ label)
    (hlabel : readWord? label = some address)
    (hwords : (body.splitOn ' ').mapM readWord? = some words) :
    Row.read? line = some ⟨address, words⟩ := by
  have hbefore : ∀ c ∈ label, decide (c ≠ ':') = true := by
    intro c hc
    rw [decide_eq_true_iff]
    rintro rfl
    exact hcolon hc
  have hspan : line.toList.span (· ≠ ':') = (label, ':' :: ' ' :: body) := by
    rw [hline, List.span_eq_takeWhile_dropWhile, List.takeWhile_append_of_pos hbefore,
      List.dropWhile_append_of_pos hbefore]
    simp
  simp only [read?, hspan, hlabel, hwords]
  rfl

/-- **A printed row is read back.** -/
theorem Row.read?_dumpRow (address : Word) {words : List Word} (hwords : words ≠ []) :
    Row.read? (dumpRow address words) = some ⟨address, words⟩ := by
  have hcolon : ':' ∉ ['\x27'] ++ (Octal.padded 6 address.toNat).toList := by
    intro hc
    rcases List.mem_append.1 hc with hmark | hdigit
    · exact absurd hmark (by decide)
    · exact not_mem_padded (.inr rfl) hdigit
  have hsplit : ([' '].intercalate (words.map fun w => (Octal.padded 6 w.toNat).toList)).splitOn
      ' ' = words.map fun w => (Octal.padded 6 w.toNat).toList := by
    refine List.splitOn_intercalate ' ' ?_ (by simpa using hwords)
    intro text htext
    obtain ⟨w, -, rfl⟩ := List.mem_map.1 htext
    exact not_mem_padded (.inl rfl)
  refine Row.read?_of_toList (toList_dumpRow address words) hcolon
    (readWord?_padded address (show ['\x27'] ∈ Numeral.fronts by decide)) ?_
  rw [hsplit]
  refine mapM_map_eq_some fun w _ => ?_
  have hword := readWord?_padded w (show [] ∈ Numeral.fronts by decide)
  rwa [List.nil_append] at hword

example : Row.read? "'177776: 000001 177777" = some ⟨0o177776, [1, 0o177777]⟩ := by decide

/-! ## The words of the rows -/

/-- A row of a dump of words from an address on. -/
def dumpedRow (start : Word) (words : List Word) (row : ℕ) : Row :=
  ⟨start + UInt16.ofNat row * UInt16.ofNat rowLength, (words.drop (row * rowLength)).take rowLength⟩

/-- The first rows of such a dump. -/
def dumpedRows (start : Word) (words : List Word) (count : ℕ) : List Row :=
  (List.range count).map (dumpedRow start words)

variable {start : Word} {words : List Word} {row : ℕ}

/-- **The label of a row does not come around**, as long as there are words for the row. -/
theorem label_dumpedRow (hend : start.toNat + words.length ≤ 65536)
    (hrow : row * 8 < words.length) :
    (dumpedRow start words row).label.toNat = start.toNat + row * 8 := by
  rw [dumpedRow, UInt16.toNat_add, UInt16.toNat_mul,
    UInt16.toNat_ofNat_of_lt' (show row < 65536 by omega)]
  show (_ + row * 8 % 65536) % 65536 = _
  omega

/-- A row has eight words, or those that are left for it. -/
theorem length_words_dumpedRow (start : Word) (words : List Word) (row : ℕ) :
    (dumpedRow start words row).words.length = min 8 (words.length - row * 8) := by
  rw [dumpedRow, List.length_take, List.length_drop]
  rfl

/-- **The rows of some words have these words, in order**, each one at its address. -/
theorem flatMap_pairs_dumpedRows (hend : start.toNat + words.length ≤ 65536) {count : ℕ}
    (hcount : count ≤ (words.length + 7) / 8) :
    (dumpedRows start words count).flatMap Row.pairs =
      (List.range' start.toNat (words.take (count * 8)).length).zip (words.take (count * 8)) := by
  induction count with
  | zero => simp [dumpedRows]
  | succ count ih =>
    have hrow : count * 8 < words.length := by omega
    have hbefore : (words.take (count * 8)).length = count * 8 := by
      rw [List.length_take]
      omega
    have hrows : dumpedRows start words (count + 1) =
        dumpedRows start words count ++ [dumpedRow start words count] := by
      rw [dumpedRows, List.range_succ, List.map_append]
      rfl
    -- the next row begins at the address behind the words so far
    rw [hrows, List.flatMap_append, ih (by omega), List.flatMap_singleton, Row.pairs,
      label_dumpedRow hend hrow, Nat.add_mul, Nat.one_mul, List.take_add, List.length_append,
      ← List.range'_append_1, List.zip_append (by rw [List.length_range']), hbefore]
    rfl

/-- The rows end where the words end, so none of them is empty, and all are read back. -/
theorem mapM_read?_rowsOf (start : Word) (words : List Word) :
    (rowsOf start words).mapM Row.read? =
      some (dumpedRows start words ((words.length + 7) / 8)) := by
  have hrows : rowsOf start words = (dumpedRows start words ((words.length + 7) / 8)).map
      fun r => dumpRow r.label r.words := by
    rw [dumpedRows, List.map_map]
    rfl
  rw [hrows]
  refine mapM_map_eq_some fun r hr => ?_
  obtain ⟨row, hrow, rfl⟩ := List.mem_map.1 hr
  have hrow' : row < (words.length + 7) / 8 := List.mem_range.1 hrow
  refine Row.read?_dumpRow _ (List.ne_nil_of_length_pos ?_)
  rw [length_words_dumpedRow]
  omega

/-- **A dump labels every word with its address.** Below the registers, a report has rows that are
read back as labels and words. These are the words of memory from the start on, as many as were
asked for or memory has, each one once and at its address, in ascending order. All rows but the last
have eight words, no row is empty, and no label has come around. -/
theorem reportLines_dump (m : Machine) (start : Word) (count : ℕ) :
    ∃ lines rows, reportLines m (some (start, count)) = registerLine m :: lines ∧
      lines.mapM Row.read? = some rows ∧
      rows.flatMap Row.pairs = (List.range' start.toNat (min count (65536 - start.toNat))).map
        (fun x => (x, m.memory.read (UInt16.ofNat x))) ∧
      ∀ i row, rows[i]? = some row →
        row.label.toNat = start.toNat + 8 * i ∧ (i + 1 < rows.length → row.words.length = 8) ∧
        1 ≤ row.words.length ∧ row.words.length ≤ 8 := by
  let words := m.memory.words start count
  have hstart := start.toNat_lt
  have hlength : words.length = min count (65536 - start.toNat) := by
    simp [words, Memory.words]
  have hend : start.toNat + words.length ≤ 65536 := by omega
  refine ⟨rowsOf start words, dumpedRows start words ((words.length + 7) / 8), rfl,
    mapM_read?_rowsOf start words, ?_, ?_⟩
  · have hall : words.take ((words.length + 7) / 8 * 8) = words :=
      List.take_of_length_le (by omega)
    rw [flatMap_pairs_dumpedRows hend (Nat.le_refl _), hall, hlength, List.map_prod_left_eq_zip,
      ← Memory.words_eq_map_range']
  · intro i row hrow
    have hrows : (dumpedRows start words ((words.length + 7) / 8)).length =
        (words.length + 7) / 8 := by
      simp [dumpedRows]
    obtain ⟨hi, rfl⟩ := List.getElem?_eq_some_iff.1 hrow
    rw [hrows] at hi ⊢
    have hrow : i * 8 < words.length := by omega
    simp only [dumpedRows, List.getElem_map, List.getElem_range, length_words_dumpedRow,
      label_dumpedRow hend hrow]
    omega

end PeripheralBus.CommandLine
