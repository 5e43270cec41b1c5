import AlertSync.Yaml.Node
import AlertSync.Yaml.ScalarReader

/-!
# Reading YAML documents

A reader for the one document of a YAML 1.1 text. Block collections are told apart by the columns
at which their entries begin: a reader for the contents of a collection gets that column, and stops
at the first token before it. Whether a node on a line is a key is seen only behind it, by the
colon.

Each reader takes a cursor at a token and returns one at the next. The readers take at most a fixed
number of steps for each character, since each round of them passes one.
-/

namespace AlertSync.Yaml

namespace Reader

/-- The prefixes that the handles of tags stand for. -/
abbrev Handles := List (String × String)

/-- The characters of names. -/
def isNameChar (c : Char) : Bool := c.isAlphanum || c == '_' || c == '-'

/-- A name behind an ampersand or an asterisk. -/
def name? (cur : Cursor) : Option (String × Cursor) :=
  let body := cur.rest.drop 1
  let name := body.takeWhile isNameChar
  let rest := body.dropWhile isNameChar
  let ends := ScalarText.endsWord rest ||
    rest.head?.any fun c => "?:,]\x7d%@\x60".toList.contains c
  if name.isEmpty || !ends then none
  else some (String.ofList name, cur.drop (name.length + 1) false)

/-! ## Tags -/

/-- The characters of tags; some more within angle brackets. -/
def isUriChar (bracketed : Bool) (c : Char) : Bool :=
  isNameChar c || ";/?:@&=+$.!~*'()%".toList.contains c ||
    (bracketed && (c == ',' || c == '[' || c == ']'))

/-- The bytes of a text with those that are given by two hexadecimal digits behind a percent
sign. -/
def uriBytes? : List Char → Option (List UInt8)
  | [] => some []
  | '%' :: a :: b :: r => do
    let n ← Numeral.ofHex? [a, b]
    return n.toUInt8 :: (← uriBytes? r)
  | c :: r => do
    if c = '%' then none
    else return (String.singleton c).toUTF8.toList ++ (← uriBytes? r)

/-- The text that a part of a tag denotes, which ends at a null character. -/
def uriText? (cs : List Char) : Option String := do
  let text ← String.fromUTF8? (ByteArray.mk (← uriBytes? cs).toArray)
  return String.ofList (text.toList.takeWhile (· != '\x00'))

/-- A tag at an exclamation mark, and what follows it. -/
def tag? (handles : Handles) (cur : Cursor) : Option (String × Cursor) := do
  let body := cur.rest.drop 1
  let (tag, rest) ← match body with
    | '<' :: r => do
      let uri := r.takeWhile (isUriChar true)
      match r.dropWhile (isUriChar true) with
      | '>' :: rest => if uri.isEmpty then none else some (← uriText? uri, rest)
      | _ => none
    | _ => do
      let word := body.takeWhile isNameChar
      match body.dropWhile isNameChar with
      | '!' :: r => do
        let uri := r.takeWhile (isUriChar false)
        if uri.isEmpty then none
        else
          let handle := String.ofList ('!' :: word ++ ['!'])
          let lead ← handles.lookup handle
          some (lead ++ (← uriText? uri), r.dropWhile (isUriChar false))
      | _ => do
        let lead ← handles.lookup "!"
        let uri := body.takeWhile (isUriChar false)
        let rest := body.dropWhile (isUriChar false)
        let name ← uriText? uri
        some (if name = "" then "!" else lead ++ name, rest)
  if ScalarText.endsWord rest || (cur.inFlow && rest.head? == some ',') then
    some (tag, cur.drop (cur.rest.length - rest.length) false)
  else none

/-- The properties at the cursor, and the next token. Within a block collection, `flow` being false,
they end with their line. -/
def properties? (handles : Handles) (flow : Bool) :
    Nat → Properties String → Cursor → Option (Properties String × Cursor)
  | 0, _, _ => none
  | fuel + 1, p, cur =>
    let goOn (p : Properties String) (next : Cursor) : Option (Properties String × Cursor) :=
      if !flow && next.mark.line != cur.mark.line then some (p, next)
      else properties? handles flow fuel p next
    if cur.atChar '&' && p.anchor.isNone then do
      let (name, next) ← name? cur
      goOn { p with anchor := some name } next.skip
    else if cur.atChar '!' && p.tag.isNone then do
      let (tag, next) ← tag? handles cur
      goOn { p with tag := some tag } next.skip
    else some (p, cur)

/-- Whether a key that begins at one cursor may end at another: on the same line, and within 1024
characters. -/
def keyEnds (start stop : Cursor) : Bool :=
  start.keyAllowed && stop.mark.line == start.mark.line &&
    decide (stop.mark.index ≤ start.mark.index + 1024)

/-- Whether a colon behind a key stands at the cursor. Within flow collections it needs no blank. -/
def atColon (cur : Cursor) : Bool :=
  if cur.inFlow then cur.atChar ':' else cur.atIndicator ':'

/-- Whether a block scalar begins at the cursor. -/
def atBlockScalar (cur : Cursor) : Bool := !cur.inFlow && (cur.atChar '|' || cur.atChar '>')

/-- A block scalar at its first indicator, and the next token. -/
def blockScalar (parent : Int) (cur : Cursor) : Option (Node String × Cursor) := do
  let literal := cur.atChar '|'
  let (text, next) ← ScalarReader.block literal parent (cur.drop 1 false)
  some (.scalar .none (if literal then .literal else .quoted) text, next.skip)

/-! ## Flow collections

A question mark that has neither key nor value in a flow sequence takes the token behind it along,
were it the bracket. So more brackets may close than open, and what is still within a flow
collection may count as outside of all of them. There it must not begin before the column of the
block collection around, and a key has to begin at that column. -/

/-- Whether the cursor counts as outside of flow collections, and before the column of the block
collection around. -/
def isOutdented (parent : Int) (cur : Cursor) : Bool :=
  !cur.inFlow && decide (cur.mark.column < parent)

/-- Whether what stands at the cursor has to be the key of the block collection around. -/
def mustBeKey (parent : Int) (cur : Cursor) : Bool :=
  !cur.inFlow && cur.keyAllowed && cur.mark.column == parent && !atBlockScalar cur

/-- Whether a question mark or a colon begins a part of an entry of a flow collection. -/
def atPart (parent : Int) (indicator : Char) (cur : Cursor) : Bool :=
  if cur.inFlow then cur.atChar indicator
  else cur.atIndicator indicator && cur.keyAllowed && cur.mark.column == parent

/-- Whether nothing but the properties of a node stands before the cursor. -/
def endsNode (cur : Cursor) : Bool :=
  cur.atChar ',' || cur.atChar ']' || cur.atChar '\x7d' || atColon cur

/-- Whether a node in a flow collection, which begins at one cursor and ends at another, is a key.
`closed` says that no more brackets close in it than open. -/
def isFlowKey (parent : Int) (closed : Bool) (start stop : Cursor) : Bool :=
  closed && atColon stop && keyEnds start stop && (start.inFlow || start.mark.column == parent)

mutual

/-- A scalar, reference or flow collection without its properties, whether no more brackets close in
it than open, and the next token. -/
def inline (handles : Handles) (parent : Int) :
    Nat → Cursor → Option (Node String × Bool × Cursor)
  | 0, _ => none
  | fuel + 1, cur =>
    match cur.rest with
    | '*' :: _ => do
      let (name, next) ← name? cur
      some (.reference name, true, next.skip)
    | '\'' :: r => do
      let (text, next) ← ScalarReader.single cur.flows .none (cur.mark.after 1) r
      some (.scalar .none .quoted text, true, next.skip)
    | '"' :: r => do
      let (text, next) ← ScalarReader.double cur.flows .none (cur.mark.after 1) r
      some (.scalar .none .quoted text, true, next.skip)
    | '[' :: _ => do
      let (items, next) ← flowItems handles parent fuel true cur.openFlow.skip
      some (.sequence .none items, next.flows == cur.flows + 1, next.closeFlow.skip)
    | '\x7b' :: _ => do
      let (entries, next) ← flowEntries handles parent fuel true cur.openFlow.skip
      some (.mapping .none entries, next.flows == cur.flows + 1, next.closeFlow.skip)
    | cs =>
      if ScalarReader.startsPlain cur.inFlow cs then do
        let (text, next) ← ScalarReader.plain cur.flows (parent + 1) .none cur.mark cs
        some (.scalar .none .plain text, true, next.skip)
      else if atBlockScalar cur then do
        let (scalar, next) ← blockScalar parent cur
        some (scalar, true, next)
      else none

/-- A node within a flow collection, whether no more brackets close in it than open, and the next
token. -/
def flowNode (handles : Handles) (parent : Int) :
    Nat → Cursor → Option (Node String × Bool × Cursor)
  | 0, _ => none
  | fuel + 1, cur =>
    if cur.atMarker || isOutdented parent cur then none
    else do
      let (p, next) ← properties? handles true 3 .none cur
      if next.atMarker || isOutdented parent next then none
      else if !p.isEmpty && endsNode next then some (.empty p, true, next)
      else do
        let (node, closed, next) ← inline handles parent fuel next
        some (← node.withProperties? p, closed, next)

/-- A node within a flow collection that is no key, or nothing before a colon, a comma or the
end. -/
def flowNodeOrEmpty (handles : Handles) (parent : Int) :
    Nat → Cursor → Option (Node String × Cursor)
  | 0, _ => none
  | fuel + 1, cur =>
    if endsNode cur then some (.empty .none, cur)
    else if mustBeKey parent cur then none
    else (flowNode handles parent fuel cur).map fun (node, _, next) => (node, next)

/-- The value behind a key of a flow collection, or nothing where there is no colon. -/
def flowValue (handles : Handles) (parent : Int) : Nat → Cursor → Option (Node String × Cursor)
  | 0, _ => none
  | fuel + 1, cur => do
    let next := (cur.drop 1 false).skip
    if next.atChar ':' then none else flowNodeOrEmpty handles parent fuel next

/-- The value behind a question mark and its key, or nothing where there is no colon. -/
def flowPart (handles : Handles) (parent : Int) : Nat → Cursor → Option (Node String × Cursor)
  | 0, _ => none
  | fuel + 1, cur =>
    if atPart parent ':' cur then flowValue handles parent fuel cur else some (.empty .none, cur)

/-- The items of a flow sequence, and its bracket. A key with its value is a mapping of its own. -/
def flowItems (handles : Handles) (parent : Int) :
    Nat → Bool → Cursor → Option (List (Node String) × Cursor)
  | 0, _, _ => none
  | fuel + 1, first, cur =>
    if isOutdented parent cur then none
    else if cur.atChar ']' then some ([], cur)
    else if !first && !cur.atChar ',' then none
    else
      let cur := if first then cur else (cur.drop 1 true).skip
      if isOutdented parent cur then none
      else if cur.atChar ']' then some ([], cur)
      else if atPart parent '?' cur then do
        let next := (cur.drop 1 (!cur.inFlow)).skip
        let (key, next) ←
          if isOutdented parent next then none
          else if next.atChar ']' then some (.empty .none, next.closeFlow.skip)
          else if next.atChar ',' then some (.empty .none, (next.drop 1 true).skip)
          else if atPart parent ':' next then some (.empty .none, (next.drop 1 false).skip)
          else flowNodeOrEmpty handles parent fuel next
        let (value, next) ← flowPart handles parent fuel next
        let (rest, next) ← flowItems handles parent fuel false next
        some (.mapping .none [(key, value)] :: rest, next)
      else do
        let (node, closed, next) ← flowNode handles parent fuel cur
        if isFlowKey parent closed cur next then do
          let (value, next) ← flowValue handles parent fuel next
          let (rest, next) ← flowItems handles parent fuel false next
          some (.mapping .none [(node, value)] :: rest, next)
        else if mustBeKey parent cur then none
        else do
          let (rest, next) ← flowItems handles parent fuel false next
          some (node :: rest, next)

/-- The entries of a flow mapping, and its brace. -/
def flowEntries (handles : Handles) (parent : Int) :
    Nat → Bool → Cursor → Option (List (Node String × Node String) × Cursor)
  | 0, _, _ => none
  | fuel + 1, first, cur =>
    if isOutdented parent cur then none
    else if cur.atChar '\x7d' then some ([], cur)
    else if !first && !cur.atChar ',' then none
    else
      let cur := if first then cur else (cur.drop 1 true).skip
      if isOutdented parent cur then none
      else if cur.atChar '\x7d' then some ([], cur)
      else do
        let (key, value, next) ←
          if atPart parent '?' cur then do
            let next := (cur.drop 1 (!cur.inFlow)).skip
            let (key, next) ← flowNodeOrEmpty handles parent fuel next
            let (value, next) ← flowPart handles parent fuel next
            some (key, value, next)
          else do
            let (key, closed, next) ← flowNode handles parent fuel cur
            if isFlowKey parent closed cur next then do
              let (value, next) ← flowValue handles parent fuel next
              some (key, value, next)
            else if mustBeKey parent cur then none
            else some (key, .empty .none, next)
        let (rest, next) ← flowEntries handles parent fuel false next
        some ((key, value) :: rest, next)

/-- The node at the cursor, whose properties before its line are given. It stands in a collection
whose entries begin at column `parent`: what begins there or before belongs to the collection, but
for the dashes of a sequence that is the value of an entry, and for block scalars. -/
def node (handles : Handles) (parent : Int) (isValue : Bool) :
    Nat → Properties String → Cursor → Option (Node String × Cursor)
  | 0, _, _ => none
  | fuel + 1, p, cur =>
    if cur.level ≤ parent then
      if isValue && cur.level == parent && cur.atIndicator '-' then
        if cur.keyAllowed then do
          let (items, next) ← items handles parent false fuel cur
          some (.sequence p items, next)
        else none
      else if cur.level == parent && atBlockScalar cur then do
        let (scalar, next) ← blockScalar parent cur
        some (← scalar.withProperties? p, next)
      else some (.empty p, cur)
    else if cur.atIndicator '-' then
      if cur.keyAllowed then do
        let (items, next) ← items handles cur.mark.column true fuel cur
        some (.sequence p items, next)
      else none
    else if cur.atIndicator '?' then
      if cur.keyAllowed then do
        let (entries, next) ← entries handles cur.mark.column fuel cur
        some (.mapping p entries, next)
      else none
    else if atBlockScalar cur then do
      let (scalar, next) ← blockScalar parent cur
      some (← scalar.withProperties? p, next)
    else do
      let (own, next) ← properties? handles false 3 .none cur
      if !own.isEmpty && (next.mark.line != cur.mark.line || next.level ≤ parent ||
          atBlockScalar next) then
        node handles parent isValue fuel (← p.merge? own) next
      else do
        let (content, closed, next) ←
          if !own.isEmpty && next.atIndicator ':' then some (.empty .none, true, next)
          else inline handles parent fuel next
        if closed && atColon next && keyEnds cur next then do
          let key ← if own.isEmpty then some content else content.withProperties? own
          let (value, next) ←
            node handles cur.mark.column true fuel .none ((next.drop 1 false).skip)
          let (entries, next) ← entries handles cur.mark.column fuel next
          some (.mapping p ((key, value) :: entries), next)
        else some (← content.withProperties? (← p.merge? own), next)

/-- The items of a block sequence whose dashes stand at a column. With `alone` nothing else may
stand there. -/
def items (handles : Handles) (column : Int) (alone : Bool) :
    Nat → Cursor → Option (List (Node String) × Cursor)
  | 0, _ => none
  | fuel + 1, cur =>
    if cur.level < column then some ([], cur)
    else if cur.level == column && cur.atIndicator '-' && cur.keyAllowed then do
      let (item, next) ← node handles column false fuel .none ((cur.drop 1 true).skip)
      let (rest, next) ← items handles column alone fuel next
      some (item :: rest, next)
    else if alone then none
    else some ([], cur)

/-- The entries of a block mapping whose keys begin at a column. -/
def entries (handles : Handles) (column : Int) :
    Nat → Cursor → Option (List (Node String × Node String) × Cursor)
  | 0, _ => none
  | fuel + 1, cur =>
    if cur.level < column then some ([], cur)
    else if cur.level != column || !cur.keyAllowed then none
    else if cur.atIndicator '?' then do
      let (key, next) ← node handles column true fuel .none ((cur.drop 1 true).skip)
      let (value, next) ←
        if next.level == column && next.atIndicator ':' && next.keyAllowed then
          node handles column true fuel .none ((next.drop 1 true).skip)
        else some (.empty .none, next)
      let (rest, next) ← entries handles column fuel next
      some ((key, value) :: rest, next)
    else do
      let (own, next) ← properties? handles false 3 .none cur
      let (content, closed, next) ←
        if !own.isEmpty && next.atIndicator ':' then some (.empty .none, true, next)
        else if next.mark.line != cur.mark.line then none
        else inline handles column fuel next
      if closed && atColon next && keyEnds cur next then do
        let key ← if own.isEmpty then some content else content.withProperties? own
        let (value, next) ← node handles column true fuel .none ((next.drop 1 false).skip)
        let (rest, next) ← entries handles column fuel next
        some ((key, value) :: rest, next)
      else none

end

/-! ## Documents -/

/-- Whether a text may hold a character. -/
def isAllowed (c : Char) : Bool :=
  let n := c.toNat
  n == 0x09 || n == 0x0a || n == 0x0d || (0x20 ≤ n && n ≤ 0x7e) || n == 0x85 ||
    (0xa0 ≤ n && n ≤ 0xfffd) || 0x10000 ≤ n

/-- A number of at most nine digits, and what follows it. -/
def shortNumber? (cs : List Char) : Option (Nat × List Char) :=
  let digits := cs.takeWhile Char.isDigit
  if digits.isEmpty || 9 < digits.length then none
  else some (Numeral.ofDecimal digits, cs.dropWhile Char.isDigit)

/-- Whether nothing, or only a comment, is left of a line. -/
def endsLine (cs : List Char) : Bool := (cs.dropWhile isBlank).head?.all (· == '#')

/-- A handle of tags: an exclamation mark, or a name between two of them; and what follows it. -/
def handle? (cs : List Char) : Option (String × List Char) :=
  match cs with
  | '!' :: r =>
    match r.takeWhile isNameChar, r.dropWhile isNameChar with
    | name, '!' :: rest => some (String.ofList ('!' :: name ++ ['!']), rest)
    | [], rest => some ("!", rest)
    | _ :: _, _ => none
  | _ => none

/-- The line of a directive behind its percent sign: what a directive for tags adds to the handles,
and nothing if it is one for the version. -/
def directive? (line : List Char) : Option (Option (String × String)) := do
  let body := (line.dropWhile isNameChar).dropWhile isBlank
  if !ScalarText.endsWord (line.dropWhile isNameChar) then none
  else if line.takeWhile isNameChar = "YAML".toList then do
    let (major, rest) ← shortNumber? body
    match rest with
    | '.' :: rest => do
      let (minor, rest) ← shortNumber? rest
      if major = 1 ∧ (minor = 1 ∨ minor = 2) ∧ endsLine rest then some none else none
    | _ => none
  else if line.takeWhile isNameChar = "TAG".toList then do
    let (handle, rest) ← handle? body
    if !rest.head?.any isBlank then none
    else
      let uri := (rest.dropWhile isBlank).takeWhile (isUriChar true)
      let rest := (rest.dropWhile isBlank).dropWhile (isUriChar true)
      if uri = [] ∨ !ScalarText.endsWord rest ∨ !endsLine rest then none
      else some (some (handle, ← uriText? uri))
  else none

/-- The directives at the head of a text, and what follows them: the handles, in which a later one
hides an earlier one, and whether there was any. -/
def directives? : Nat → Bool → Handles → Cursor → Option (Handles × Bool × Cursor)
  | 0, _, _, _ => none
  | fuel + 1, version, handles, cur =>
    if cur.atChar '%' && cur.mark.column == 0 then do
      let (line, _, next) := ScalarReader.restOfLine cur.mark cur.rest
      let next := Cursor.skip { next with keyAllowed := false }
      match ← directive? (line.drop 1) with
      | none => do
        if version then none
        else
          let (handles, _, next) ← directives? fuel true handles next
          some (handles, true, next)
      | some (handle, lead) => do
        if (handles.lookup handle).isSome then none
        else
          let (handles, _, next) ← directives? fuel version ((handle, lead) :: handles) next
          some (handles, true, next)
    else some (handles, false, cur)

/-- The handles that need no directive. -/
def standardHandles : Handles := [("!", "!"), ("!!", "tag:yaml.org,2002:")]

/-- Whether nothing but markers of the end is left. -/
def atEnd : Nat → Cursor → Bool
  | 0, _ => false
  | fuel + 1, cur =>
    match cur.rest with
    | [] => true
    | c :: _ => cur.atMarker && c == '.' && atEnd fuel ((cur.drop 3 false).skip)

/-- The document of a text: `none` within if the text holds none. -/
def document? (text : List Char) : Option (Option (Node String)) :=
  if !text.all isAllowed then none
  else do
    let fuel := 8 * text.length + 16
    let start := (Cursor.mk text .start true 0).skip
    let (own, given, cur) ← directives? fuel false [] start
    let handles := own ++ standardHandles
    if cur.rest.isEmpty && !given then some none
    else if cur.atMarker && cur.atChar '-' then do
      let (n, next) ← node handles (-1) false fuel .none ((cur.drop 3 false).skip)
      if atEnd fuel next then some (some n) else none
    else if cur.atMarker || given then none
    else do
      let (n, next) ← node handles (-1) false fuel .none cur
      if atEnd fuel next then some (some n) else none

end Reader

end AlertSync.Yaml
