import PeripheralBus.CommandLine.Words
import PeripheralBus.Proofs.Configuration.DeviceMap

/-!
# Words and addresses in octal

A word on the command line and a device address in a configuration are read as octal numerals, the
one in sixteen bits and the other in eight. Digits are given up as soon as they are too many for
their bits, which comes at a different digit for each, and an address is looked at once more. Still
they are one language: **an address is a word of at most 77**, in whatever spelling.

* `IsOctal`, `readOctal_eq_ok_iff_isOctal`: the octal numerals and their values, and that they are
  read up to a bound.
* `parseWord_eq_ok_iff`: the texts that are words.
* `parseAddress_eq_ok_iff_parseWord`: the texts that are addresses are words.
* `parseAddress_cases`: every other text is refused as no address.
* `octal_texts`: all of this, and that a printed word is read back.
-/

namespace PeripheralBus

open Numeral CommandLine

/-- **The octal numerals**: an apostrophe or none, a plus sign or none, and one or more digits from
0 to 7, of this value. Any number of the digits can be zeros in front. -/
def IsOctal (text : List Char) (n : ℕ) : Prop :=
  ∃ front ∈ fronts, ∃ digits, text = front ++ digits ∧ Spells 8 digits n

/-- Octal numerals are read as far as their values are below the bound. -/
theorem readOctal_eq_ok_iff_isOctal {bound : ℕ} (hbound : 0 < bound) {text : List Char} {n : ℕ} :
    readOctal bound text = .ok n ↔ IsOctal text n ∧ n < bound := by
  rw [readOctal_eq_ok_iff hbound]
  constructor
  · rintro ⟨front, hfront, digits, htext, hspells, hn⟩
    exact ⟨⟨front, hfront, digits, htext, hspells⟩, hn⟩
  · rintro ⟨⟨front, hfront, digits, htext, hspells⟩, hn⟩
    exact ⟨front, hfront, digits, htext, hspells, hn⟩

/-- **The texts that are words** are the octal numerals whose values fit. -/
theorem parseWord_eq_ok_iff {text : String} {v : Word} :
    parseWord text = .ok v ↔ IsOctal text.toList v.toNat := by
  have hread (n : ℕ) : readOctal 65536 text.toList = .ok n ↔ IsOctal text.toList n ∧ n < 65536 :=
    readOctal_eq_ok_iff_isOctal (by decide)
  unfold parseWord
  cases h : readOctal 65536 text.toList with
  | error fault =>
    refine iff_of_false (by simp) ?_
    intro hoctal
    rw [(hread v.toNat).2 ⟨hoctal, v.toNat_lt⟩] at h
    cases h
  | ok n =>
    obtain ⟨hoctal, hn⟩ := (hread n).1 h
    constructor
    · intro hv
      obtain rfl := Except.ok.inj hv
      rwa [UInt16.toNat_ofNat_of_lt' hn]
    · -- a text has one value
      intro hv
      have hsame := h.symm.trans ((hread v.toNat).2 ⟨hv, v.toNat_lt⟩)
      simp only [Except.ok.inj hsame, UInt16.ofNat_toNat]

/-- **An address is a word of at most 77.** -/
theorem parseAddress_eq_ok_iff_parseWord {text : String} {d : UInt8} :
    parseAddress text = .ok d ↔ parseWord text = .ok d.toUInt16 ∧ d.toNat ≤ 0o77 := by
  rw [parseAddress_eq_ok_iff_readOctal, readOctal_eq_ok_iff_isOctal (by decide),
    parseWord_eq_ok_iff, UInt8.toNat_toUInt16]
  constructor
  · rintro ⟨⟨hoctal, -⟩, hlast⟩
    exact ⟨hoctal, hlast⟩
  · -- so small a value fits the eight bits as well
    rintro ⟨hoctal, hlast⟩
    exact ⟨⟨hoctal, by omega⟩, hlast⟩

/-- Every text is an address or is refused as none. -/
theorem parseAddress_cases (text : String) :
    (∃ d, parseAddress text = .ok d) ∨
      parseAddress text = .error (.configuration (.invalidAddress text)) := by
  by_cases h : IsAddress text
  · exact .inl h
  · exact .inr (parseAddress_of_not_isAddress h)

/-- A word that was printed with zeros in front is read back. -/
theorem parseWord_printed (v : Word) (zeros : ℕ) {front : List Char} (hfront : front ∈ fronts) :
    parseWord (String.ofList (front ++ (List.replicate zeros '0' ++ Octal.digits v.toNat))) =
      .ok v := by
  rw [parseWord_eq_ok_iff, String.toList_ofList]
  exact ⟨front, hfront, _, rfl, spells_toDigits (by decide) (by decide) zeros⟩

/-- **Words and addresses are one language.** A text is read as a word exactly when it is an octal
numeral whose value fits sixteen bits, and it is read as a device address exactly when it is read as
a word of at most 77; every other text is a configuration fault, which quotes it. So a word that was
printed in octal is read back, with any number of zeros in front, with an apostrophe or without. -/
theorem octal_texts :
    (∀ (text : String) (v : Word), parseWord text = .ok v ↔ IsOctal text.toList v.toNat) ∧
    (∀ (text : String) (d : UInt8),
      parseAddress text = .ok d ↔ parseWord text = .ok d.toUInt16 ∧ d.toNat ≤ 0o77) ∧
    (∀ text : String, (∃ d, parseAddress text = .ok d) ∨
      parseAddress text = .error (.configuration (.invalidAddress text))) ∧
    ∀ (v : Word) (zeros : ℕ),
      parseWord (String.ofList (List.replicate zeros '0' ++ Octal.digits v.toNat)) = .ok v ∧
      parseWord (String.ofList ('\x27' :: (List.replicate zeros '0' ++ Octal.digits v.toNat))) =
        .ok v := by
  refine ⟨fun _ _ => parseWord_eq_ok_iff, fun _ _ => parseAddress_eq_ok_iff_parseWord,
    parseAddress_cases, ?_⟩
  intro v zeros
  have hplain := parseWord_printed v zeros (show [] ∈ fronts by decide)
  have hmarked := parseWord_printed v zeros (show ['\x27'] ∈ fronts by decide)
  rw [List.nil_append] at hplain
  rw [List.singleton_append] at hmarked
  exact ⟨hplain, hmarked⟩

end PeripheralBus
