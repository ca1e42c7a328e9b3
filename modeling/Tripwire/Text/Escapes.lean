/-
Text without the sequences that steer a terminal.

An escape character begins a sequence, wherever it stands.  Most sequences are
short: some marks and one closing character.  A bracket behind the escape character
begins a control sequence, with parameters before its closing character; other
characters begin strings, which go on up to a terminator of their own.  CAN and SUB
break off any of them.

What is shown is what stands outside of the sequences, without the controls; tab,
newline, form feed and carriage return are shown, too.  One of these four inside a
short or a control sequence is shown with all that follows it up to the next
control, and only then the sequence goes on.
-/

namespace Tripwire.Text

/-- Where in a sequence a character stands. -/
inductive Escape.Place where
  /-- Outside. -/
  | outside
  /-- Behind an escape character. -/
  | begun
  /-- Behind the marks of a short sequence. -/
  | marks
  /-- Behind the bracket of a control sequence. -/
  | control
  | controlParameters
  | controlMarks
  /-- In a control sequence that nobody understands. -/
  | controlIgnored
  /-- At the beginning of a device string. -/
  | device
  | deviceParameters
  | deviceMarks
  /-- In a device string that nobody understands. -/
  | deviceIgnored
  | deviceString
  /-- In a command of the operating system. -/
  | command
  /-- In another string. -/
  | string
  deriving DecidableEq, Repr

namespace Escape

/-- Tab, newline, form feed and carriage return. -/
def isShownControl (c : Char) : Bool := c = '\t' || c = '\n' || c = '\x0c' || c = '\r'

/-- An ASCII control. -/
def isControl (c : Char) : Bool := c.toNat < 0x20 || c = '\x7f'

/-- The character shows outside of sequences. -/
def isShown (c : Char) : Bool := isShownControl c || !isControl c

/-- The terminator of strings is an octet of the character. -/
def hasTerminator (c : Char) : Bool :=
  (String.utf8EncodeChar c).contains 0x9c

namespace Place

/-- The place is in a short or a control sequence, or outside, where controls have their
effect. -/
def heedsControls : Place → Bool
  | outside | begun | marks | control | controlParameters | controlMarks | controlIgnored => true
  | device | deviceParameters | deviceMarks | deviceIgnored | deviceString | command
  | string => false

/-- The place behind a character that is neither a control nor outside of ASCII. -/
def afterGraphic (c : Char) : Place → Place
  | outside => outside
  | begun =>
      if c < '0' then marks
      else if c = '[' then control
      else if c = ']' then command
      else if c = 'P' then device
      else if c = 'X' || c = '^' || c = '_' then string
      else outside
  | marks => if c < '0' then marks else outside
  | control =>
      if c < '0' then controlMarks else if c < '@' then controlParameters else outside
  | controlParameters =>
      if c < '0' then controlMarks
      else if c < '<' then controlParameters
      else if c < '@' then controlIgnored
      else outside
  | controlMarks =>
      if c < '0' then controlMarks else if c < '@' then controlIgnored else outside
  | controlIgnored => if c < '@' then controlIgnored else outside
  | device =>
      if c < '0' then deviceMarks else if c < '@' then deviceParameters else deviceString
  | deviceParameters =>
      if c < '0' then deviceMarks
      else if c < '<' then deviceParameters
      else if c < '@' then deviceIgnored
      else deviceString
  | deviceMarks =>
      if c < '0' then deviceMarks else if c < '@' then deviceIgnored else deviceString
  | deviceIgnored => deviceIgnored
  | deviceString => deviceString
  | command => command
  | string => string

/-- The place behind a character. -/
def after (c : Char) (p : Place) : Place :=
  if c = '\x1b' then begun
  else if c = '\x18' || c = '\x1a' then outside
  else if c = '\x07' then if p = command then outside else p
  else if isControl c then p
  else if c.toNat < 0x80 then p.afterGraphic c
  else
    match p with
    | deviceIgnored | deviceString | string => if hasTerminator c then outside else p
    | p => p

/-- The character shows although it may stand in a sequence. -/
def shows (c : Char) (p : Place) : Bool :=
  if isShownControl c then p.heedsControls else p = outside && isShown c

end Place

/-- What shows of a text that begins at a place, while characters are being shown or while they
are not. -/
def shown (shows : Bool) (p : Place) : List Char → List Char
  | [] => []
  | c :: s =>
      if shows && isShown c then c :: shown true (if 0x80 ≤ c.toNat then .outside else p) s
      else if p.shows c then c :: shown true p s
      else shown false (p.after c) s

end Escape

/-- The text without the sequences that steer a terminal and without controls. -/
def withoutEscapes (s : String) : String :=
  String.ofList (Escape.shown false .outside s.toList)

end Tripwire.Text
