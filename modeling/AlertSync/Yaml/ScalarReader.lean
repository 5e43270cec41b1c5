import AlertSync.Yaml.Cursor

/-!
# Reading scalars

The text of a scalar in each of the ways in which it may be written, and where it ends. Line breaks
within quoted and plain scalars are folded: one break counts as a space, more as one less, and the
blanks around them do not count.
-/

namespace AlertSync.Yaml

/-- What stands between two words of a scalar: blanks, or line breaks with whatever blanks are
around them. -/
inductive Gap
  | blanks (text : List Char)
  | lines (first : List Char) (more : List Char)

namespace Gap

/-- No gap at all. -/
def none : Gap := blanks []

/-- The gap with one more blank at its end. -/
def addBlank (g : Gap) (c : Char) : Gap :=
  match g with
  | blanks text => blanks (text ++ [c])
  | lines first more => lines first more

/-- The gap with one more line break at its end. -/
def addBreak (g : Gap) (b : List Char) : Gap :=
  match g with
  | blanks _ => lines b []
  | lines first more => lines first (more ++ b)

/-- What a gap counts as. -/
def text : Gap → List Char
  | blanks text => text
  | lines first more =>
    if first = ['\n'] then (if more.isEmpty then [' '] else more) else first ++ more

def isLines : Gap → Bool
  | lines .. => true
  | blanks _ => false

/-- Whether there is a gap. -/
def isOpen : Gap → Bool
  | lines .. => true
  | blanks text => !text.isEmpty

end Gap

namespace ScalarReader

/-- What a scalar reader finds: the text, and the cursor behind it. -/
abbrev Found := Option (List Char × Cursor)

/-- The find with more text before it. -/
def before (text : List Char) : Found → Found := Option.map fun (t, c) => (text ++ t, c)

/-- The text from within single quotes. -/
def single (flows : Nat) (g : Gap) (m : Mark) : List Char → Found
  | [] => none
  | '\r' :: '\n' :: r => single flows (g.addBreak ['\n']) (m.nextLine 2) r
  | '\'' :: '\'' :: r => before (g.text ++ ['\'']) (single flows .none (m.after 2) r)
  | c :: r =>
    if isBreak c then single flows (g.addBreak (breakText c)) (m.nextLine 1) r
    else if isBlank c then single flows (g.addBlank c) (m.after 1) r
    else if m.column == 0 && isDocumentMarker (c :: r) then none
    else if c = '\'' then some (g.text, ⟨r, m.after 1, false, flows⟩)
    else before (g.text ++ [c]) (single flows .none (m.after 1) r)

/-- The character that a letter behind a backslash stands for between double quotes. -/
def escape? (c : Char) : Option Char :=
  match c with
  | '0' => some '\x00'
  | 'a' => some '\x07'
  | 'b' => some '\x08'
  | 't' => some '\t'
  | '\t' => some '\t'
  | 'n' => some '\n'
  | 'v' => some '\x0b'
  | 'f' => some '\x0c'
  | 'r' => some '\r'
  | 'e' => some '\x1b'
  | ' ' => some ' '
  | '"' => some '"'
  | '/' => some '/'
  | '\\' => some '\\'
  | 'N' => some '\x85'
  | '_' => some '\xa0'
  | 'L' => some '\u2028'
  | 'P' => some '\u2029'
  | _ => none

/-- The character with a number in hexadecimal digits, if there is one. -/
def charOfHex? (digits : List Char) : Option Char := do
  let n ← Numeral.ofHex? digits
  if n.isValidChar then some (Char.ofNat n) else none

/-- The text from within double quotes. -/
def double (flows : Nat) (g : Gap) (m : Mark) : List Char → Found
  | [] => none
  | '\r' :: '\n' :: r => double flows (g.addBreak ['\n']) (m.nextLine 2) r
  | '\\' :: '\r' :: '\n' :: r => before g.text (double flows (.lines [] []) (m.nextLine 3) r)
  | '\\' :: 'x' :: a :: b :: r => do
    let c ← charOfHex? [a, b]
    before (g.text ++ [c]) (double flows .none (m.after 4) r)
  | '\\' :: 'u' :: a :: b :: c :: d :: r => do
    let e ← charOfHex? [a, b, c, d]
    before (g.text ++ [e]) (double flows .none (m.after 6) r)
  | '\\' :: 'U' :: a :: b :: c :: d :: e :: f :: i :: j :: r => do
    let k ← charOfHex? [a, b, c, d, e, f, i, j]
    before (g.text ++ [k]) (double flows .none (m.after 10) r)
  | '\\' :: e :: r =>
    if isBreak e then before g.text (double flows (.lines [] []) (m.nextLine 2) r)
    else do
      let c ← escape? e
      before (g.text ++ [c]) (double flows .none (m.after 2) r)
  | c :: r =>
    if isBreak c then double flows (g.addBreak (breakText c)) (m.nextLine 1) r
    else if isBlank c then double flows (g.addBlank c) (m.after 1) r
    else if m.column == 0 && isDocumentMarker (c :: r) then none
    else if c = '"' then some (g.text, ⟨r, m.after 1, false, flows⟩)
    else if c = '\\' then none
    else before (g.text ++ [c]) (double flows .none (m.after 1) r)

def isFlowIndicator (c : Char) : Bool :=
  c == ',' || c == '[' || c == ']' || c == '\x7b' || c == '\x7d'

/-- Whether a plain scalar ends before a character: at a colon before a blank, and within a flow
collection at its indicators. -/
def endsPlain (flow : Bool) (c : Char) (r : List Char) : Bool :=
  (c == ':' && ScalarText.endsWord r) || (flow && isFlowIndicator c)

/-- Whether a colon stands before an indicator of the flow collection around it. -/
def isStrayColon (flow : Bool) (c : Char) (r : List Char) : Bool :=
  flow && c == ':' && r.head?.any fun d => isFlowIndicator d || d == '?'

/-- The text of a plain scalar from within it. Outside of flow collections its further lines begin
at column `indent` or behind it. -/
def plain (flows : Nat) (indent : Int) (g : Gap) (m : Mark) : List Char → Found
  | [] => some ([], ⟨[], m, g.isLines, flows⟩)
  | '\r' :: '\n' :: r => plain flows indent (g.addBreak ['\n']) (m.nextLine 2) r
  | c :: r =>
    let flow := flows != 0
    if isBreak c then plain flows indent (g.addBreak (breakText c)) (m.nextLine 1) r
    else if isBlank c then
      if c == '\t' && g.isLines && decide (m.column < indent) then none
      else plain flows indent (g.addBlank c) (m.after 1) r
    else if (g.isOpen && ((!flow && decide (m.column < indent)) || c == '#' ||
          (m.column == 0 && isDocumentMarker (c :: r)))) then
      some ([], ⟨c :: r, m, g.isLines, flows⟩)
    else if isStrayColon flow c r then none
    else if endsPlain flow c r then some ([], ⟨c :: r, m, g.isLines, flows⟩)
    else before (g.text ++ [c]) (plain flows indent .none (m.after 1) r)

/-! ## Block scalars -/

/-- What a block scalar keeps of the line breaks at its end. -/
inductive Chomping
  | strip
  | clip
  | keep
  deriving DecidableEq

/-- The indicators behind the first of a block scalar: the indentation and the chomping, each at
most once, in either order. -/
def blockHeader? (cs : List Char) : Option (Option Nat × Chomping × List Char) :=
  let digit? (cs : List Char) : Option (Option Nat × List Char) :=
    match cs with
    | d :: r =>
      if d == '0' then none
      else if d.isDigit then some (some (d.toNat - '0'.toNat), r)
      else some (none, cs)
    | [] => some (none, cs)
  let chomp (cs : List Char) : Chomping × List Char :=
    match cs with
    | '+' :: r => (.keep, r)
    | '-' :: r => (.strip, r)
    | _ => (.clip, cs)
  match chomp cs with
  | (.clip, _) => do
    let (indent, r) ← digit? cs
    match indent with
    | some n => some (some n, chomp r)
    | none => some (none, .clip, r)
  | (c, r) => do
    let (indent, r) ← digit? r
    some (indent, c, r)

/-- The rest of the line behind the indicators of a block scalar, which holds nothing or a
comment. -/
def blockHeaderEnd? (m : Mark) (comment : Bool) (blank : Bool) : List Char → Option Cursor
  | [] => some ⟨[], m, true, 0⟩
  | '\r' :: '\n' :: r => some ⟨r, m.nextLine 2, true, 0⟩
  | c :: r =>
    if isBreak c then some ⟨r, m.nextLine 1, true, 0⟩
    else if comment then blockHeaderEnd? (m.after 1) true blank r
    else if isBlank c then blockHeaderEnd? (m.after 1) false true r
    else if c == '#' then blockHeaderEnd? (m.after 1) true blank r
    else none

/-- Empty lines and the indentation of the next line: the breaks, the widest indentation that was
seen, and the cursor behind. With `indent` the indentation is known. -/
def blockBreaks (indent : Option Nat) (widest : Nat) (breaks : List Char) (m : Mark) :
    List Char → Option (List Char × Nat × Cursor)
  | [] => some (breaks, max widest m.column, ⟨[], m, true, 0⟩)
  | '\r' :: '\n' :: r =>
    blockBreaks indent (max widest m.column) (breaks ++ ['\n']) (m.nextLine 2) r
  | c :: r =>
    let indenting := indent.all fun n => decide (m.column < n)
    if c == ' ' && indenting then blockBreaks indent widest breaks (m.after 1) r
    else if c == '\t' && indenting then none
    else if isBreak c then
      blockBreaks indent (max widest m.column) (breaks ++ breakText c) (m.nextLine 1) r
    else some (breaks, max widest m.column, ⟨c :: r, m, true, 0⟩)

/-- The rest of a line, its break as it counts, and the cursor behind it. -/
def restOfLine (m : Mark) : List Char → List Char × List Char × Cursor
  | [] => ([], [], ⟨[], m, true, 0⟩)
  | '\r' :: '\n' :: r => ([], ['\n'], ⟨r, m.nextLine 2, true, 0⟩)
  | c :: r =>
    if isBreak c then ([], breakText c, ⟨r, m.nextLine 1, true, 0⟩)
    else
      let (text, b, cur) := restOfLine (m.after 1) r
      (c :: text, b, cur)

/-- The lines of a block scalar from the one at the cursor. `first` is the break before that line
and `breaks` are the empty lines behind that break; a folded scalar drops the break between two
lines that do not begin with a blank. -/
def blockLines (literal : Bool) (indent : Nat) (chomping : Chomping) :
    Nat → (first breaks : List Char) → (leadingBlank : Bool) → Cursor → Found
  | 0, _, _, _, _ => none
  | fuel + 1, first, breaks, leadingBlank, cur =>
    match cur.rest with
    | c :: _ =>
      if cur.mark.column = indent then do
        let trailingBlank := isBlank c
        let joint :=
          if !literal && first == ['\n'] && !leadingBlank && !trailingBlank then
            (if breaks.isEmpty then [' '] else breaks)
          else first ++ breaks
        let (text, b, next) := restOfLine cur.mark cur.rest
        let (more, _, next) ← blockBreaks (some indent) 0 [] next.mark next.rest
        before (joint ++ text) (blockLines literal indent chomping fuel b more trailingBlank next)
      else finish first breaks cur
    | [] => finish first breaks cur
where
  finish (first breaks : List Char) (cur : Cursor) : Found :=
    some (match chomping with
      | .strip => []
      | .clip => first
      | .keep => first ++ breaks, cur)

/-- A block scalar behind its first indicator, in a collection whose contents are indented by
`parent`. -/
def block (literal : Bool) (parent : Int) (cur : Cursor) : Found := do
  let (increment, chomping, r) ← blockHeader? cur.rest
  let header := cur.drop (cur.rest.length - r.length) true
  let line ← blockHeaderEnd? header.mark false false r
  let known : Option Nat := increment.map fun n => if 0 ≤ parent then parent.toNat + n else n
  let (breaks, widest, first) ← blockBreaks known 0 [] line.mark line.rest
  let indent := known.getD (max widest (max (parent + 1).toNat 1))
  blockLines literal indent chomping (first.rest.length + 1) [] breaks false first

/-- Whether a plain scalar may begin with a character. -/
def startsPlain (flow : Bool) (cs : List Char) : Bool :=
  match cs with
  | [] => false
  | c :: r =>
    if isBlankOrBreak c || ScalarText.isIndicator c then false
    else if c == '-' then !ScalarText.endsWord r
    else if c == '?' || c == ':' then !flow && !ScalarText.endsWord r
    else true

end ScalarReader

end AlertSync.Yaml
