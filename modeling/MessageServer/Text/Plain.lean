/-!
# Plain text

Text without the sequences that control a terminal.  A sequence begins with an escape character:

* an opening bracket and parameters, up to a character from `@` to `~`;
* a closing bracket and a command, up to a bell;
* `P`, parameters and punctuation, and then a string;
* `X`, `^` or `_`, and then a string;
* any other character, with blanks and punctuation in front of it.

An escape character begins the next sequence wherever it stands, and a cancel or substitute
character ends one.  Nothing of a sequence is left in plain text, and neither are control characters
other than tab, line feed, form feed and carriage return.
-/

namespace MessageServer.Text

/-- Which part of a control sequence a terminal is in. -/
inductive Sequence where
  | outside
  /-- Behind an escape character. -/
  | escape
  /-- Behind an escape character and at least one blank or punctuation mark. -/
  | designation
  /-- Behind an opening bracket. -/
  | control
  /-- Behind a closing bracket. -/
  | command
  /-- Behind `P`. -/
  | introducer
  /-- Behind `P` and at least one parameter. -/
  | parameters
  /-- Behind `P` and at least one blank or punctuation mark; parameters may stand between. -/
  | selector
  | string
  deriving DecidableEq, Repr

/-- Whether `c` lays out text. -/
def isLayout (c : Char) : Bool :=
  c == '\t' || c == '\n' || c == '\x0c' || c == '\r'

/-- Whether `c` can be part of plain text. -/
def isPlain (c : Char) : Bool :=
  isLayout c || (' ' ≤ c && c != '\x7f')

namespace Sequence

/-- Where `c` leads to.  A string ends with the byte `9c`, which is looked for in the encoding of
characters too. -/
def next (s : Sequence) (c : Char) : Sequence :=
  if c = '\x1b' then escape
  else if c = '\x18' ∨ c = '\x1a' then outside
  else
    match s with
    | outside => outside
    | escape =>
      if c = '[' then control
      else if c = ']' then command
      else if c = 'P' then introducer
      else if c = 'X' ∨ c = '^' ∨ c = '_' then string
      else if ' ' ≤ c ∧ c ≤ '/' then designation
      else if '0' ≤ c ∧ c ≤ '~' then outside
      else escape
    | designation => if '0' ≤ c ∧ c ≤ '~' then outside else designation
    | control => if '@' ≤ c ∧ c ≤ '~' then outside else control
    | command => if c = '\x07' then outside else command
    | introducer =>
      if ' ' ≤ c ∧ c ≤ '/' then selector
      else if '0' ≤ c ∧ c ≤ '?' then parameters
      else if '@' ≤ c ∧ c ≤ '~' then string
      else introducer
    | parameters =>
      if ' ' ≤ c ∧ c ≤ '/' then selector
      else if '<' ≤ c ∧ c ≤ '~' then string
      else parameters
    | selector => if '0' ≤ c ∧ c ≤ '~' then string else selector
    | string => if (String.utf8EncodeChar c).contains 0x9c then outside else string

/-- Whether a plain character takes effect where it stands.  Layout does so also in a sequence that
is no command and no string. -/
def shows (s : Sequence) (c : Char) : Bool :=
  match s with
  | outside => true
  | escape | designation | control => isLayout c
  | command | introducer | parameters | selector | string => false

end Sequence

/-- The plain characters of a text that begins in `s`.  Behind a character that was shown all plain
ones are, and a sequence that layout has broken goes on with the next character that is not plain,
unless one beyond ASCII has ended it. -/
def plainFrom (s : Sequence) (shown : Bool) : List Char → List Char
  | [] => []
  | c :: cs =>
    if isPlain c && (shown || s.shows c) then
      c :: plainFrom (if c.toNat < 0x80 then s else .outside) true cs
    else plainFrom (s.next c) false cs

/-- A text without control sequences and control characters. -/
def plain (s : String) : String :=
  String.ofList (plainFrom .outside false s.toList)

/-- Only plain characters are left. -/
theorem isPlain_of_mem_plainFrom {s : Sequence} {shown : Bool} {cs : List Char} {c : Char}
    (hc : c ∈ plainFrom s shown cs) : isPlain c := by
  induction cs generalizing s shown with
  | nil => simp [plainFrom] at hc
  | cons d cs ih =>
    unfold plainFrom at hc
    split at hc
    · next h =>
      rcases List.mem_cons.1 hc with rfl | hc
      · exact (Bool.and_eq_true_iff.1 h).1
      · exact ih hc
    · exact ih hc

/-- A text of plain characters is left as it is. -/
theorem plainFrom_eq_self {shown : Bool} {cs : List Char} (h : ∀ c ∈ cs, isPlain c) :
    plainFrom .outside shown cs = cs := by
  induction cs generalizing shown with
  | nil => rfl
  | cons c cs ih =>
    have hc : isPlain c = true := h c List.mem_cons_self
    simp [plainFrom, hc, Sequence.shows, ih fun d hd => h d (List.mem_cons_of_mem _ hd)]

end MessageServer.Text
