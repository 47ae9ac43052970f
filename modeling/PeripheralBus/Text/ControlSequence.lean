/-!
# Control sequences

What a terminal would carry out instead of showing: single control characters, and the sequences
that an escape character begins. Text that does not go to a terminal is written without them.

A sequence is an escape and one character, an escape with intermediate characters before the last
one, a control sequence (`ESC [`), a command (`ESC ]`, up to a bell), a string (`ESC X`, `ESC ^`,
`ESC _`), or a device string (`ESC P`) with a header of parameters in front. An escape begins a new
sequence wherever it stands, so it also ends a command and a string; cancel and substitute end every
sequence.

A tab, a line break or a form feed inside a sequence other than a command or string stands for
itself, and the text after it is shown as well. A stream remembers the sequence, and the next
control character takes it up again; a text that is taken as a whole does not.

* `ControlSequence.strip`: the text without control characters and sequences.
* `ControlSequence.strip_eq_self`: a text without controls is kept as it is.
* `ControlSequence.isShown_of_mem_strip`: what is left has no controls.
* `ControlSequence.strip_emphasisEnd_append`: a part of a text that is emphasized cannot leave a
  sequence open behind it.
* `Text.plain`, `Text.streamed`: a text without them, taken as a whole or as a stream.
* `Text.emphasized`: a part of a text, emphasized.
-/

namespace PeripheralBus.ControlSequence

/-- The escape character. -/
def escape : Char := '\x1b'

/-- Whether `c` is one of the controls that lay out text: tab, line feed, form feed and carriage
return. -/
def isLayout (c : Char) : Bool := c = '\t' ∨ c = '\n' ∨ c = '\x0c' ∨ c = '\r'

/-- Whether `c` is a control of the first 32 code points, or delete. -/
def isControl (c : Char) : Bool := c.toNat < 0x20 ∨ c.toNat = 0x7f

/-- Whether `c` is shown as text outside every sequence. -/
def isShown (c : Char) : Bool := isLayout c || !isControl c

/-- Whether `c` breaks off every sequence: cancel and substitute. -/
def isCancel (c : Char) : Bool := c = '\x18' ∨ c = '\x1a'

/-- Whether `c` is an intermediate character of a sequence. -/
def isIntermediate (c : Char) : Bool := 0x20 ≤ c.toNat ∧ c.toNat < 0x30

/-- Whether `c` is a character of a parameter. -/
def isParameter (c : Char) : Bool := 0x30 ≤ c.toNat ∧ c.toNat < 0x40

/-- Whether `c` is a parameter character for private use, which can only come first. -/
def isPrivate (c : Char) : Bool := 0x3c ≤ c.toNat ∧ c.toNat < 0x40

/-- Whether `c` can end a control sequence. -/
def isFinal (c : Char) : Bool := 0x40 ≤ c.toNat ∧ c.toNat < 0x7f

/-- Where in a sequence one is. -/
inductive Phase where
  /-- After the escape. -/
  | escaped
  /-- After the escape and intermediate characters. -/
  | intermediate
  /-- In a control sequence. -/
  | control
  /-- In a command. -/
  | command
  /-- At the beginning of a device string. -/
  | device
  /-- In the parameters of a device string. -/
  | deviceParameters
  /-- In the intermediate characters of a device string. -/
  | deviceIntermediate
  /-- In a string, or behind the header of a device string. -/
  | string
  deriving DecidableEq, Repr

namespace Phase

/-- Whether layout stands for itself in a phase. -/
def showsLayout : Phase → Bool
  | .escaped | .intermediate | .control => true
  | .command | .device | .deviceParameters | .deviceIntermediate | .string => false

/-- What the character after an escape begins, if it does not end the sequence. -/
def afterEscape (c : Char) : Option Phase :=
  if c = '[' then some .control
  else if c = ']' then some .command
  else if c = 'P' then some .device
  else if c = 'X' ∨ c = '^' ∨ c = '_' then some .string
  else if isIntermediate c then some .intermediate
  else if isParameter c ∨ isFinal c then none
  else some .escaped

/-- The octet that ends a string, even within the encoding of a character. -/
def stringEnd : UInt8 := 0x9c

/-- The phase after a character that belongs to the sequence, if it does not end it. A device
string whose header is out of order goes on as a string. -/
def next? (p : Phase) (c : Char) : Option Phase :=
  match p with
  | .escaped => afterEscape c
  | .intermediate => if isParameter c ∨ isFinal c then none else some .intermediate
  | .control => if isFinal c then none else some .control
  | .command => if c = '\x07' then none else some .command
  | .device =>
    if isIntermediate c then some .deviceIntermediate
    else if isParameter c then some .deviceParameters
    else if isFinal c then some .string
    else some .device
  | .deviceParameters =>
    if isIntermediate c then some .deviceIntermediate
    else if isPrivate c ∨ isFinal c then some .string
    else some .deviceParameters
  | .deviceIntermediate =>
    if isParameter c ∨ isFinal c then some .string else some .deviceIntermediate
  | .string => if (String.utf8EncodeChar c).contains stringEnd then none else some .string

end Phase

/-- Where in a text one is. -/
inductive Place where
  /-- Outside every sequence. -/
  | text
  /-- Inside a sequence. -/
  | inside (p : Phase)
  /-- In text that layout has begun inside a sequence. -/
  | interrupted (p : Phase)
  deriving DecidableEq, Repr

namespace Place

/-- The place in a sequence, if there is one. -/
def ofPhase? : Option Phase → Place
  | none => .text
  | some p => .inside p

/-- The place after layout in a sequence. A stream remembers the sequence. -/
def afterLayout (stream : Bool) (p : Phase) : Place := if stream then .interrupted p else .text

/-- One character: the place after it and whether it is shown. A character beyond ASCII in text
makes a stream forget the sequence before it. -/
def step (stream : Bool) (p : Place) (c : Char) : Place × Bool :=
  if c = escape then (.inside .escaped, false)
  else if isCancel c then (.text, false)
  else
    match p with
    | .text => (.text, isShown c)
    | .inside p =>
      if isLayout c ∧ p.showsLayout then (afterLayout stream p, true)
      else (ofPhase? (p.next? c), false)
    | .interrupted p =>
      if isShown c then (if c.toNat < 0x80 then .interrupted p else .text, true)
      else (.inside p, false)

end Place

/-- A text from a place on, without control characters and control sequences. -/
def strip (stream : Bool) (p : Place) : List Char → List Char
  | [] => []
  | c :: rest =>
    match p.step stream c with
    | (p, true) => c :: strip stream p rest
    | (p, false) => strip stream p rest

theorem isShown_of_step {stream : Bool} {p q : Place} {c : Char}
    (h : p.step stream c = (q, true)) : isShown c := by
  simp only [Place.step] at h
  grind [isShown]

theorem step_text (stream : Bool) {c : Char} (h : isShown c) :
    Place.text.step stream c = (.text, true) := by
  have escape : isShown escape = false := by decide
  have cancel : isCancel c = false := by
    simp only [isCancel, decide_eq_false_iff_not]
    rintro (rfl | rfl) <;> exact absurd h (by decide)
  simp only [Place.step, cancel, h]
  grind

/-- What is left has no controls other than layout. -/
theorem isShown_of_mem_strip {stream : Bool} {p : Place} {s : List Char} {c : Char}
    (h : c ∈ strip stream p s) : isShown c := by
  induction s generalizing p with
  | nil => simp [strip] at h
  | cons d rest ih =>
    simp only [strip] at h
    split at h
    · next hd =>
      rcases List.mem_cons.1 h with rfl | h
      · exact isShown_of_step hd
      · exact ih h
    · exact ih h

/-- A text without controls is kept as it is. -/
theorem strip_eq_self (stream : Bool) {s : List Char} (h : ∀ c ∈ s, isShown c) :
    strip stream .text s = s := by
  induction s with
  | nil => rfl
  | cons c rest ih =>
    simp only [strip, step_text stream (h c List.mem_cons_self)]
    rw [ih fun d hd => h d (List.mem_cons_of_mem c hd)]

/-- The mark that ends an emphasis. -/
def emphasisEnd : List Char := [escape, '[', '0', 'm']

/-- Whatever sequence is open, the end of an emphasis ends it. -/
theorem strip_emphasisEnd_append (stream : Bool) (p : Place) (s : List Char) :
    strip stream p (emphasisEnd ++ s) = strip stream .text s := by
  cases p <;> rfl

end PeripheralBus.ControlSequence

namespace PeripheralBus.Text

/-- A text as it is quoted where no terminal reads it. -/
def plain (s : String) : String := String.ofList (ControlSequence.strip false .text s.toList)

/-- A text as it is written to a stream that is no terminal. -/
def streamed (s : String) : String := String.ofList (ControlSequence.strip true .text s.toList)

/-- A part of a text that a terminal would emphasize, between the marks that begin and end the
emphasis. -/
def emphasized (s : String) : String :=
  "\x1b[1m" ++ s ++ String.ofList ControlSequence.emphasisEnd

end PeripheralBus.Text
