import AlertSync.Proofs.Yaml.Blocks
import AlertSync.Proofs.Yaml.Written

/-!
# Reading back written YAML

Every tree is written as a document that holds its node, `nodeOf` (`document?_text`). The tree is
taken apart along with the text: `node_read`, `items_read` and `entries_read` follow the printer's
recursion, each for any place that a collection around may give what is written (`Place.Fits`), and
for any text behind it that ends the collections it should (`Outdents`). The induction is on the
reader's steps, of which a text of so many characters allows enough.
-/

namespace AlertSync.Yaml

open Printer (entries isSimpleKey items lead line mappingIndent opening scalarIndent
  sequenceIndent spaces)
open ScalarText
open Reader (Handles)
open ofTree (ofItems ofParts)

/-! ## Nodes -/

/-- The node of a string. -/
def textNode {ν : Type} (s : String) (isKey : Bool) : Node ν :=
  .scalar .none (written s.toList isKey) s.toList

/-- The node of the name of a part. -/
def nameNode {ν : Type} (name : String) : Node ν :=
  textNode name (Printer.isSimpleKey (.string name))

/-- The node that a tree is written as. -/
def nodeOf {ν : Type} : Tree → Node ν
  | .absent => .scalar .none .plain "null".toList
  | .flag b => .scalar .none .plain (if b then "true".toList else "false".toList)
  | .number n => .scalar .none .plain (Numeral.decimal n)
  | .text s => textNode s false
  | .list items => .sequence .none (nodesOf items)
  | .record parts => .mapping .none (entriesOf parts)
where
  nodesOf : List Tree → List (Node ν)
    | [] => []
    | t :: r => nodeOf t :: nodesOf r
  entriesOf : List (String × Tree) → List (Node ν × Node ν)
    | [] => []
    | (name, t) :: r => (nameNode name, nodeOf t) :: entriesOf r

/-! ## Places -/

namespace Place

/-- The column of the collection that holds a place. -/
def parent (indent : Nat) : Place → Int
  | root => -1
  | _ => indent

/-- Whether a place is that of a key or a value of a mapping, where a sequence may begin in the
column of the mapping. -/
def isValue : Place → Bool
  | value | explicit => true
  | _ => false

/-- Whether what is written at a place begins at a mark: behind the indicator of the place, in a
collection of the given indentation. -/
def Fits (indent : Nat) (m : Mark) : Place → Prop
  | root => indent = 0 ∧ m.column = 0
  | value => indent < m.column
  | _ => m.column = indent + 1

end Place

/-! ## Reading at a place -/

/-- The entries of a mapping stand to the right of the collection around. -/
theorem parent_lt_mappingIndent (place : Place) (indent : Nat) :
    place.parent indent < (mappingIndent place indent : Nat) := by
  cases place with
  | root => exact Int.negSucc_lt_zero 0
  | item | value | explicit =>
    show (indent : Int) < ((indent + 2 : Nat) : Int)
    omega

section

variable {handles : Handles} {place : Place} {indent fuel : Nat} {m : Mark} {keyAllowed : Bool}
  (hfits : place.Fits indent m)

include hfits

/-- What is written at a place begins to the right of the collection around. -/
theorem parent_lt_column : place.parent indent < (m.past (lead place)).column := by
  cases place with
  | root =>
    show (-1 : Int) < (m.column : Nat)
    omega
  | value =>
    have hcolumn : indent < m.column := hfits
    show (indent : Int) < ((m.column + 1 : Nat) : Int)
    omega
  | item | explicit =>
    have hcolumn : m.column = indent + 1 := hfits
    show (indent : Int) < ((m.column + 1 : Nat) : Int)
    omega

/-- The first token of a line at a place. -/
theorem skip_lead {cs : List Char} (htoken : BeginsToken cs) :
    (Cursor.mk (lead place ++ cs) m keyAllowed 0).skip =
      ⟨cs, m.past (lead place), keyAllowed, 0⟩ := by
  have hspace : (Cursor.mk (' ' :: cs) m keyAllowed 0).skip = ⟨cs, m.past [' '], keyAllowed, 0⟩ :=
    Cursor.skip_spaces htoken m keyAllowed 1
  cases place with
  | root => exact Cursor.skip_spaces htoken m keyAllowed 0
  | item | value | explicit => exact hspace

/-- The first token of a collection at a place: it stands in the column of the collection. -/
theorem skip_opening {n : Nat} (hkey : place = .value ∨ keyAllowed = true)
    (hn : place = .value ∨ n = mappingIndent place indent) {cs : List Char}
    (htoken : BeginsToken cs) :
    (Cursor.mk (opening place none n ++ cs) m keyAllowed 0).skip =
        ⟨cs, m.past (opening place none n), true, 0⟩ ∧
      (m.past (opening place none n)).column = n := by
  cases place with
  | root =>
    obtain rfl : keyAllowed = true := hkey.resolve_left nofun
    obtain rfl : n = 0 := hn.resolve_left nofun
    exact ⟨Cursor.skip_spaces htoken m true 0, hfits.2⟩
  | value =>
    constructor
    · show (Cursor.mk ('\n' :: (spaces n ++ cs)) m keyAllowed 0).skip = _
      rw [Cursor.skip_newline, Cursor.skip_spaces htoken]
      show _ = Cursor.mk cs (m.past ('\n' :: spaces n)) true 0
      rw [Mark.past_cons_break (by decide), Mark.past_spaces]
    · show (m.past ('\n' :: spaces n)).column = n
      rw [Mark.past_cons_break (by decide), Mark.past_spaces]
      exact Nat.zero_add n
  | item | explicit =>
    obtain rfl : keyAllowed = true := hkey.resolve_left nofun
    obtain rfl : n = indent + 2 := hn.resolve_left nofun
    have hcolumn : m.column = indent + 1 := hfits
    refine ⟨Cursor.skip_spaces htoken m true 1, ?_⟩
    show m.column + 1 = indent + 2
    omega

/-- What stands on a line is read at any place. -/
theorem node_line {cs : List Char} {n : Node String} (h : Inline cs n) {dash : Bool}
    {rest : List Char} (hrest : Outdents (place.parent indent) dash rest) :
    Reader.node handles (place.parent indent) place.isValue (fuel + 3) .none
        (Cursor.mk (lead place ++ line cs ++ rest) m keyAllowed 0).skip =
      some (n, (Cursor.mk rest (m.past (lead place ++ line cs)) true 0).skip) := by
  have htext : lead place ++ line cs ++ rest = lead place ++ (cs ++ '\n' :: rest) := by
    rw [h.line]
    simp
  rw [htext, skip_lead hfits (h.leads (.inl rfl)).beginsToken,
    node_inline h (parent_lt_column hfits) place.isValue hrest, h.line, Mark.past_append m]

omit hfits in
/-- A literal block begins with a token. -/
theorem beginsToken_literalBlock (n : Nat) (cs rest : List Char) :
    BeginsToken (line (literalBlock n cs) ++ rest) := by
  obtain ⟨r, hr⟩ : ∃ r, line (literalBlock n cs) = '|' :: r := by
    unfold line
    split <;> exact ⟨_, rfl⟩
  rw [hr]
  exact ⟨rfl, by decide, by decide, by decide, rfl⟩

/-- A string is read at any place. -/
theorem node_string (s : String) {dash : Bool} {rest : List Char}
    (hrest : Outdents (place.parent indent) dash rest) :
    Reader.node handles (place.parent indent) place.isValue (fuel + 3) .none
        (Cursor.mk (Printer.node place indent none (.string s) ++ rest) m keyAllowed 0).skip =
      some (textNode s false,
        (Cursor.mk rest (m.past (Printer.node place indent none (.string s))) true 0).skip) := by
  have hpos : 0 < scalarIndent place indent := by cases place <;> exact Nat.succ_pos _
  show Reader.node handles (place.parent indent) place.isValue (fuel + 3) .none
    (Cursor.mk (lead place ++ line (chars (scalarIndent place indent) false s) ++ rest) m
      keyAllowed 0).skip = some (textNode s false, (Cursor.mk rest
        (m.past (lead place ++ line (chars (scalarIndent place indent) false s))) true 0).skip)
  by_cases hliteral : style s.toList false = .literal
  · have hallowed : literalAllowed s.toList = true := by
      rcases style_cases s.toList false with ⟨h, -⟩ | ⟨h, -⟩ | h | ⟨-, h, -⟩
      · exact absurd (h.symm.trans hliteral) nofun
      · exact absurd (h.symm.trans hliteral) nofun
      · exact absurd (h.symm.trans hliteral) nofun
      · exact h
    have hindent : ((scalarIndent place indent : Nat) : Int) = max (place.parent indent) 0 + 2 := by
      cases place with
      | root => rfl
      | item | value | explicit =>
        show ((indent + 2 : Nat) : Int) = max (indent : Int) 0 + 2
        omega
    have hchars : chars (scalarIndent place indent) false s =
        literalBlock (scalarIndent place indent) s.toList := by
      unfold chars
      simp only [hliteral]
    have hnode : (textNode s false : Node String) = .scalar .none .literal s.toList := by
      unfold textNode written
      rw [hliteral]
    rw [hchars, hnode, List.append_assoc, skip_lead hfits (beginsToken_literalBlock _ _ rest),
      node_literal hindent (parent_lt_column hfits) place.isValue hallowed hrest,
      Mark.past_append m]
  · exact node_line hfits (inline_chars hpos hliteral) hrest

end

/-! ## Trees -/

/-- A name before its colon is a key. -/
theorem key_name {name : String} (h : isSimpleKey (.string name) = true) (n : Nat) :
    Key (chars (n + 2) true name) (nameNode name) := by
  obtain ⟨hbreak, hlength, hstyle⟩ := key_chars h (n + 2)
  unfold nameNode
  rw [h]
  exact ⟨inline_chars (Nat.succ_pos _) hstyle, hbreak, hlength⟩

/-- An entry begins with a token, which is no item. -/
theorem beginsToken_entryText (n : Nat) (name : String) (t : Tree) (r : List Char) :
    BeginsToken (entryText n name t ++ r) ∧ ¬IsItem (entryText n name t ++ r) := by
  unfold entryText
  split
  · next h =>
    have hleads : Leads (chars (n + 2) true name ++
        ':' :: (Printer.node .value n none (ofTree t) ++ r)) := (key_name h n).leads (.inr rfl)
    rw [List.append_assoc]
    exact ⟨hleads.beginsToken, hleads.not_isItem⟩
  · refine ⟨?_, fun ⟨_, h, _⟩ => absurd (List.cons.inj h).1 (by decide)⟩
    rw [List.cons_append, List.append_assoc, List.append_assoc]
    exact beginsToken_indicator (by decide) (endsWord_node (by decide) n (.text name) _)

/-- What follows an item: more items, or what follows all. -/
theorem outdents_items {n : Nat} {rest : List Char} {alone : Bool}
    (hrest : if alone then EndsBefore n rest else Outdents n false rest) (l : List Tree) :
    Outdents n true (items n (spaces n) (ofItems l) ++ rest) := by
  cases l with
  | nil =>
    cases alone with
    | false => exact Outdents.weaken hrest
    | true => exact EndsBefore.outdents hrest true
  | cons t r =>
    rw [items_cons, List.append_assoc, List.cons_append, List.append_assoc]
    exact outdents_spaces (beginsToken_indicator (by decide) (endsWord_node (by decide) n t _))
      fun _ => rfl

/-- What follows an entry: more entries, or what follows all. -/
theorem outdents_entries {n : Nat} {rest : List Char} (hrest : EndsBefore n rest)
    (l : List (String × Tree)) :
    Outdents n false (entries n (spaces n) (ofParts l) ++ rest) := by
  cases l with
  | nil => exact hrest.outdents false
  | cons p r =>
    obtain ⟨name, t⟩ := p
    obtain ⟨htoken, hitem⟩ :=
      beginsToken_entryText n name t (entries n (spaces n) (ofParts r) ++ rest)
    rw [entries_cons, List.append_assoc, List.append_assoc]
    exact outdents_spaces htoken fun h => absurd h hitem

/-- The first token of what is read next has the column of its indentation. -/
theorem column_after {cs : List Char} (h : finishesWith isBreak cs = true) (m : Mark) (n : Nat) :
    ((m.past cs).after n).column = n := by
  show (m.past cs).column + n = n
  rw [column_past h, Nat.zero_add]

/-- An entry is read if its value is, and then the entries behind it. -/
theorem entries_entry {handles : Handles} {n fuel : Nat} {m : Mark} {name : String} {t : Tree}
    {value : Node String} {tail : List Char} (hm : m.column = n) (htail : Outdents n false tail)
    (hvalue : ∀ {place : Place} {m : Mark} {keyAllowed : Bool}, place = .value ∨ place = .explicit →
      place.Fits n m → (place = .value ∨ keyAllowed = true) →
      Reader.node handles n true (fuel + 3) .none
          (Cursor.mk (Printer.node place n none (ofTree t) ++ tail) m keyAllowed 0).skip =
        some (value,
          (Cursor.mk tail (m.past (Printer.node place n none (ofTree t))) true 0).skip)) :
    Reader.entries handles n (fuel + 4) ⟨entryText n name t ++ tail, m, true, 0⟩ =
      (Reader.entries handles n (fuel + 3)
        (Cursor.mk tail (m.past (entryText n name t)) true 0).skip).map
          fun (rest, next) => ((nameNode name, value) :: rest, next) := by
  subst hm
  unfold entryText
  by_cases hkey : isSimpleKey (.string name) = true
  · have hfits : Place.value.Fits m.column ((m.past (chars (m.column + 2) true name)).after 1) := by
      rw [Mark.past_eq_after (key_name hkey m.column).isBreak]
      show m.column < m.column + (chars (m.column + 2) true name).length + 1
      omega
    rw [if_pos hkey, List.append_assoc, List.cons_append,
      entries_key (key_name hkey m.column) (endsWord_node (by decide) m.column t _)]
    show Option.bind (Reader.node handles m.column true (fuel + 3) .none (Cursor.mk
      (Printer.node .value m.column none (ofTree t) ++ tail) _ false 0).skip) _ = _
    rw [hvalue (.inl rfl) hfits (.inl rfl), Option.bind_some, Mark.past_append,
      Mark.past_cons_of_not_break (by decide)]
    dsimp only
    cases Reader.entries handles m.column (fuel + 3) _ <;> rfl
  · -- The name stands behind a question mark, like any string.
    let key := Printer.node .explicit m.column none (.string name)
    let behind := Printer.node .explicit m.column none (ofTree t) ++ tail
    have hcolon : BeginsToken (':' :: behind) :=
      beginsToken_indicator (by decide) (endsWord_node (by decide) m.column t tail)
    have hcolumn : (((m.after 1).past key).after m.column).column = m.column :=
      column_after (finishesWith_node (.text name) .explicit m.column) (m.after 1) m.column
    have hname : Reader.node handles m.column true (fuel + 3) .none
        (Cursor.mk (key ++ (spaces m.column ++ ':' :: behind)) (m.after 1) true 0).skip =
          some (textNode name false,
            ⟨':' :: behind, ((m.after 1).past key).after m.column, true, 0⟩) := by
      have houtdents : Outdents m.column false (spaces m.column ++ ':' :: behind) :=
        outdents_spaces hcolon fun ⟨_, h, _⟩ => absurd (List.cons.inj h).1 (by decide)
      have hfits : Place.explicit.Fits m.column (m.after 1) := rfl
      refine (node_string hfits name houtdents).trans ?_
      rw [Cursor.skip_spaces hcolon]
    have hnode : (nameNode name : Node String) = textNode name false := by
      unfold nameNode
      rw [Bool.not_eq_true] at hkey
      rw [hkey]
    have htext : '?' :: (key ++ spaces m.column ++
        ':' :: Printer.node .explicit m.column none (ofTree t)) ++ tail =
          '?' :: (key ++ (spaces m.column ++ ':' :: behind)) := by
      simp [behind]
    have hfits : Place.explicit.Fits m.column
        ((((m.after 1).past key).after m.column).after 1) := congrArg (· + 1) hcolumn
    have hword : endsWord (key ++ (spaces m.column ++ ':' :: behind)) = true :=
      endsWord_node (by decide) m.column (.text name) _
    rw [if_neg hkey, htext, entries_mark hword hcolumn
      (endsWord_node (by decide) m.column t tail) hname,
      hvalue (.inr rfl) hfits (.inr rfl), Option.bind_some, hnode,
      Mark.past_cons_of_not_break (c := '?') (by decide), Mark.past_append (m.after 1),
      Mark.past_append (m.after 1), Mark.past_spaces,
      Mark.past_cons_of_not_break (c := ':') (by decide)]

section

variable {handles : Handles} {place : Place} {indent fuel : Nat} {m : Mark} {keyAllowed : Bool}
  {rest : List Char} (hfits : place.Fits indent m) (hkey : place = .value ∨ keyAllowed = true)
  (hrest : Outdents (place.parent indent) (!place.isValue) rest)

include hfits hkey hrest

/-- A sequence is read at any place if its items are. -/
theorem node_sequence {t : Tree} {r : List Tree} {nodes : List (Node String)}
    (hitems : ∀ {n : Nat} {m : Mark} (alone : Bool), m.column = n →
      (if alone then EndsBefore n rest else Outdents n false rest) →
      Reader.items handles n alone fuel
          ⟨'-' :: (Printer.node .item n none (ofTree t) ++
            (items n (spaces n) (ofItems r) ++ rest)), m, true, 0⟩ =
        some (nodes, (Cursor.mk rest (m.past ('-' :: (Printer.node .item n none (ofTree t) ++
          items n (spaces n) (ofItems r)))) true 0).skip)) :
    Reader.node handles (place.parent indent) place.isValue (fuel + 1) .none
        (Cursor.mk (Printer.node place indent none (ofTree (.list (t :: r))) ++ rest) m
          keyAllowed 0).skip =
      some (.sequence .none nodes, (Cursor.mk rest
        (m.past (Printer.node place indent none (ofTree (.list (t :: r))))) true 0).skip) := by
  obtain ⟨n, hn, hopen, hvalue⟩ : ∃ n, sequenceIndent place false indent = n ∧
      (place = .value ∨ n = mappingIndent place indent) ∧ (place = .value → n = indent) := by
    cases place <;> exact ⟨_, rfl, by simp [sequenceIndent, mappingIndent],
      by simp [sequenceIndent]⟩
  have htext : Printer.node place indent none (ofTree (.list (t :: r))) =
      opening place none n ++ '-' ::
        (Printer.node .item n none (ofTree t) ++ items n (spaces n) (ofItems r)) := by
    rw [← items_cons, ← hn]
    rfl
  have hword : endsWord (Printer.node .item n none (ofTree t) ++
      (items n (spaces n) (ofItems r) ++ rest)) = true := endsWord_node (by decide) n t _
  obtain ⟨hskip, hcolumn⟩ := skip_opening hfits hkey hopen
    (beginsToken_indicator (c := '-') (by decide) hword)
  rw [htext, List.append_assoc, List.cons_append, List.append_assoc, hskip, Mark.past_append m]
  generalize m.past (opening place none n) = m' at hcolumn
  subst hcolumn
  by_cases hplace : place = .value
  · -- The value of an entry may have its items in the column of the mapping.
    obtain rfl := hvalue hplace
    subst hplace
    refine (node_dash_value hword).trans ?_
    rw [hitems false rfl hrest]
    rfl
  · -- Elsewhere the items stand further to the right than the collection around.
    have hparent : place.parent indent < m'.column := by
      rw [hopen.resolve_left hplace]
      exact parent_lt_mappingIndent place indent
    rw [node_dash hword hparent, hitems true rfl (hrest.endsBefore hparent)]
    rfl

/-- A mapping is read at any place if its entries are. -/
theorem node_mapping {name : String} {t : Tree} {r : List (String × Tree)}
    {nodes : List (Node String × Node String)}
    (hentries : ∀ {n k : Nat} {m : Mark}, k = fuel + 2 ∨ k = fuel + 3 → m.column = n →
      EndsBefore n rest →
      Reader.entries handles n k
          ⟨entryText n name t ++ (entries n (spaces n) (ofParts r) ++ rest), m, true, 0⟩ =
        some (nodes, (Cursor.mk rest (m.past
          (entryText n name t ++ entries n (spaces n) (ofParts r))) true 0).skip)) :
    Reader.node handles (place.parent indent) place.isValue (fuel + 3) .none
        (Cursor.mk (Printer.node place indent none (ofTree (.record ((name, t) :: r))) ++ rest) m
          keyAllowed 0).skip =
      some (.mapping .none nodes, (Cursor.mk rest
        (m.past (Printer.node place indent none (ofTree (.record ((name, t) :: r))))) true
          0).skip) := by
  obtain ⟨n, hn⟩ : ∃ n, n = mappingIndent place indent := ⟨_, rfl⟩
  have hparent : place.parent indent < n := by
    rw [hn]
    exact parent_lt_mappingIndent place indent
  have htext : Printer.node place indent none (ofTree (.record ((name, t) :: r))) =
      opening place none n ++ (entryText n name t ++ entries n (spaces n) (ofParts r)) := by
    rw [← List.append_assoc, hn]
    rfl
  obtain ⟨hskip, hcolumn⟩ := skip_opening hfits hkey (.inr hn)
    (beginsToken_entryText n name t (entries n (spaces n) (ofParts r) ++ rest)).1
  rw [htext, List.append_assoc, List.append_assoc, hskip, Mark.past_append m]
  generalize m.past (opening place none n) = m' at hcolumn
  subst hcolumn
  have hends : EndsBefore m'.column rest := hrest.endsBefore hparent
  by_cases hname : isSimpleKey (.string name) = true
  · -- The mapping is seen only behind the name, by the colon.
    have hread := hentries (.inr rfl) rfl hends
    unfold entryText at hread ⊢
    rw [if_pos hname, List.append_assoc, List.cons_append] at hread ⊢
    rw [node_key (key_name hname m'.column) (endsWord_node (by decide) m'.column t _) hparent,
      hread]
    rfl
  · -- The question mark begins the mapping.
    have hread := hentries (.inl rfl) rfl hends
    unfold entryText at hread ⊢
    rw [if_neg hname, List.cons_append, List.append_assoc, List.append_assoc] at hread ⊢
    have hword (tail : List Char) :
        endsWord (Printer.node .explicit m'.column none (.string name) ++ tail) = true :=
      endsWord_node (by decide) m'.column (.text name) tail
    rw [node_mark (hword _) hparent, hread]
    rfl

end

mutual

/-- What is written of a tree is read as its node. -/
theorem node_read : ∀ (t : Tree) (fuel : Nat) (handles : Handles) (place : Place) {indent : Nat}
    {m : Mark} {keyAllowed : Bool} {rest : List Char}, cost t ≤ fuel → place.Fits indent m →
    (place = .value ∨ keyAllowed = true) → Outdents (place.parent indent) (!place.isValue) rest →
    Reader.node handles (place.parent indent) place.isValue fuel .none
        (Cursor.mk (Printer.node place indent none (ofTree t) ++ rest) m keyAllowed 0).skip =
      some (nodeOf t,
        (Cursor.mk rest (m.past (Printer.node place indent none (ofTree t))) true 0).skip)
  | t, 0, _, _, _, _, _, _, h, _, _, _ | t, 1, _, _, _, _, _, _, h, _, _, _
  | t, 2, _, _, _, _, _, _, h, _, _, _ => by
    have := three_le_cost t
    omega
  | .absent, fuel + 3, _, _, _, _, _, _, _, hfits, _, hrest =>
    node_line hfits (inline_word (.inl rfl)) hrest
  | .flag true, fuel + 3, _, _, _, _, _, _, _, hfits, _, hrest =>
    node_line hfits (inline_word (.inr (.inl rfl))) hrest
  | .flag false, fuel + 3, _, _, _, _, _, _, _, hfits, _, hrest =>
    node_line hfits (inline_word (.inr (.inr rfl))) hrest
  | .number k, fuel + 3, _, _, _, _, _, _, _, hfits, _, hrest =>
    node_line hfits (inline_decimal k) hrest
  | .text s, fuel + 3, _, _, _, _, _, _, _, hfits, _, hrest => node_string hfits s hrest
  | .list [], fuel + 3, _, _, _, _, _, _, _, hfits, _, hrest =>
    node_line hfits inline_brackets hrest
  | .record [], fuel + 3, _, _, _, _, _, _, _, hfits, _, hrest =>
    node_line hfits inline_braces hrest
  | .list (t :: r), fuel + 3, _, _, _, _, _, _, h, hfits, hkey, hrest => by
    have hcost : cost.itemsCost (t :: r) ≤ fuel + 2 := by
      simp only [cost] at h
      omega
    exact node_sequence hfits hkey hrest fun alone hm hrest =>
      items_read t r (fuel + 2) _ alone hcost hm hrest
  | .record ((name, t) :: r), fuel + 3, _, _, _, _, _, _, h, hfits, hkey, hrest => by
    have hcost : cost.partsCost ((name, t) :: r) ≤ fuel + 2 := by
      simp only [cost] at h
      omega
    refine node_mapping hfits hkey hrest fun hk hm hrest => ?_
    rcases hk with rfl | rfl
    · exact entries_read name t r (fuel + 2) _ hcost hm hrest
    · exact entries_read name t r (fuel + 3) _ (Nat.le_succ_of_le hcost) hm hrest
termination_by _ fuel => (fuel, 1)

/-- What is written of items is read as their nodes. -/
theorem items_read : ∀ (t : Tree) (r : List Tree) (fuel : Nat) (handles : Handles) (alone : Bool)
    {n : Nat} {m : Mark} {rest : List Char}, cost.itemsCost (t :: r) ≤ fuel → m.column = n →
    (if alone then EndsBefore n rest else Outdents n false rest) →
    Reader.items handles n alone fuel
        ⟨'-' :: (Printer.node .item n none (ofTree t) ++
          (items n (spaces n) (ofItems r) ++ rest)), m, true, 0⟩ =
      some (nodeOf.nodesOf (t :: r), (Cursor.mk rest (m.past ('-' ::
        (Printer.node .item n none (ofTree t) ++ items n (spaces n) (ofItems r)))) true 0).skip)
  | _, _, 0, _, _, _, _, _, h, _, _ => by simp [cost.itemsCost] at h
  | t, r, fuel + 1, handles, alone, n, m, rest, h, hm, hrest => by
    subst hm
    have hcost : cost t ≤ fuel := by
      simp only [cost.itemsCost] at h
      omega
    have hitem : Reader.node handles m.column false fuel .none
        (Cursor.mk (Printer.node .item m.column none (ofTree t) ++
          (items m.column (spaces m.column) (ofItems r) ++ rest)) (m.after 1) true 0).skip =
        some (nodeOf t, (Cursor.mk (items m.column (spaces m.column) (ofItems r) ++ rest)
          ((m.after 1).past (Printer.node .item m.column none (ofTree t))) true 0).skip) :=
      node_read t fuel handles .item hcost rfl (.inr rfl) (outdents_items hrest r)
    have hend := finishesWith_node t .item m.column
    rw [items_dash (endsWord_node (by decide) m.column t _), hitem, Option.bind_some]
    dsimp only
    match r with
    | [] =>
      obtain ⟨k, rfl⟩ : ∃ k, fuel = k + 1 := ⟨fuel - 1, by have := three_le_cost t; omega⟩
      show Option.map _ (Reader.items handles m.column alone (k + 1) (Cursor.mk rest _ true 0).skip)
        = _
      rw [items_end (column_past hend (m.after 1)) hrest, Mark.past_cons_of_not_break (by decide),
        Mark.past_append]
      rfl
    | u :: r =>
      have hrest' := items_read u r fuel handles alone (by simp only [cost.itemsCost] at h ⊢; omega)
        (column_after hend (m.after 1) m.column) hrest
      have htoken : BeginsToken ('-' :: (Printer.node .item m.column none (ofTree u) ++
          (items m.column (spaces m.column) (ofItems r) ++ rest))) :=
        beginsToken_indicator (by decide) (endsWord_node (by decide) m.column u _)
      rw [items_cons, List.append_assoc, List.cons_append, List.append_assoc,
        Cursor.skip_spaces htoken, hrest', Mark.past_cons_of_not_break (c := '-') (by decide) m,
        Mark.past_append (m.after 1), Mark.past_append _ (spaces m.column), Mark.past_spaces]
      rfl
termination_by _ _ fuel => (fuel, 0)

/-- What is written of entries is read as their nodes. -/
theorem entries_read : ∀ (name : String) (t : Tree) (r : List (String × Tree)) (fuel : Nat)
    (handles : Handles) {n : Nat} {m : Mark} {rest : List Char},
    cost.partsCost ((name, t) :: r) ≤ fuel → m.column = n → EndsBefore n rest →
    Reader.entries handles n fuel
        ⟨entryText n name t ++ (entries n (spaces n) (ofParts r) ++ rest), m, true, 0⟩ =
      some (nodeOf.entriesOf ((name, t) :: r), (Cursor.mk rest (m.past
        (entryText n name t ++ entries n (spaces n) (ofParts r))) true 0).skip)
  | _, _, _, 0, _, _, _, _, h, _, _ => by simp [cost.partsCost] at h
  | name, t, r, fuel + 1, handles, n, m, rest, h, hm, hrest => by
    subst hm
    have hcost : cost t ≤ fuel := by
      simp only [cost.partsCost] at h
      omega
    -- Behind the value come more entries, or what ends the mapping.
    have hmore {cs : List Char} (hcs : finishesWith isBreak cs = true) (m' : Mark) :
        Reader.entries handles m.column fuel
            (Cursor.mk (entries m.column (spaces m.column) (ofParts r) ++ rest) (m'.past cs)
              true 0).skip =
          some (nodeOf.entriesOf r, (Cursor.mk rest (m'.past
            (cs ++ entries m.column (spaces m.column) (ofParts r))) true 0).skip) := by
      match r with
      | [] =>
        obtain ⟨k, rfl⟩ : ∃ k, fuel = k + 1 := ⟨fuel - 1, by have := three_le_cost t; omega⟩
        rw [Mark.past_append]
        exact entries_end (column_past hcs m') hrest
      | (name', u) :: r =>
        have hrest' := entries_read name' u r fuel handles
          (by simp only [cost.partsCost] at h ⊢; omega) (column_after hcs m' m.column) hrest
        have htoken := (beginsToken_entryText m.column name' u
          (entries m.column (spaces m.column) (ofParts r) ++ rest)).1
        rw [entries_cons, List.append_assoc, List.append_assoc, Cursor.skip_spaces htoken, hrest',
          List.append_assoc (spaces m.column), Mark.past_append m' cs,
          Mark.past_append _ (spaces m.column), Mark.past_spaces]
    have hvalue {place : Place} {m' : Mark} {keyAllowed : Bool}
        (hplace : place = .value ∨ place = .explicit) (hfits : place.Fits m.column m')
        (hkey : place = .value ∨ keyAllowed = true) :
        Reader.node handles m.column true fuel .none
            (Cursor.mk (Printer.node place m.column none (ofTree t) ++
              (entries m.column (spaces m.column) (ofParts r) ++ rest)) m' keyAllowed 0).skip =
          some (nodeOf t, (Cursor.mk (entries m.column (spaces m.column) (ofParts r) ++ rest)
            (m'.past (Printer.node place m.column none (ofTree t))) true 0).skip) := by
      have hrest' := outdents_entries hrest r
      rcases hplace with rfl | rfl
      · exact node_read t fuel handles .value hcost hfits hkey hrest'
      · exact node_read t fuel handles .explicit hcost hfits hkey hrest'
    have hend : finishesWith isBreak (entryText m.column name t) = true :=
      finishesWith_entryText fun place => finishesWith_node t place m.column
    obtain ⟨k, rfl⟩ : ∃ k, fuel = k + 3 := ⟨fuel - 3, by have := three_le_cost t; omega⟩
    rw [entries_entry rfl (outdents_entries hrest r) hvalue, hmore hend]
    rfl
termination_by _ _ _ fuel => (fuel, 0)

end

/-! ## Documents -/

/-- What stands for itself may stand in a text. -/
theorem isAllowed_of_isPlainChar {c : Char} (h : isPlainChar c = true) :
    Reader.isAllowed c = true := by
  simp only [isPlainChar, Reader.isAllowed, Bool.or_eq_true, Bool.and_eq_true, beq_iff_eq,
    decide_eq_true_eq] at h ⊢
  omega

/-- What is written of a tree is a token, at the head of a text. -/
theorem beginsToken_node (t : Tree) : BeginsToken (Printer.node .root 0 none (ofTree t)) := by
  have hline {cs : List Char} {n : Node String} (h : Inline cs n) : BeginsToken (line cs) := by
    rw [h.line]
    exact (h.leads (.inl rfl)).beginsToken
  match t with
  | .absent => exact hline (inline_word (.inl rfl))
  | .flag true => exact hline (inline_word (.inr (.inl rfl)))
  | .flag false => exact hline (inline_word (.inr (.inr rfl)))
  | .number k => exact hline (inline_decimal k)
  | .text s =>
    show BeginsToken (line (chars 2 false s))
    by_cases hliteral : style s.toList false = .literal
    · have hchars : chars 2 false s = literalBlock 2 s.toList := by
        unfold chars
        simp only [hliteral]
      have htoken := beginsToken_literalBlock 2 s.toList []
      rwa [List.append_nil, ← hchars] at htoken
    · exact hline (inline_chars (by decide) hliteral)
  | .list [] => exact hline inline_brackets
  | .record [] => exact hline inline_braces
  | .list (t :: r) => exact beginsToken_indicator (by decide) (endsWord_node (by decide) 0 t _)
  | .record ((name, t) :: r) => exact (beginsToken_entryText 0 name t _).1

/-- The document that is written of a tree holds its node. -/
theorem document?_text (t : Tree) :
    Reader.document? (text (ofTree t)).toList = some (some (nodeOf t)) := by
  have htext : (text (ofTree t)).toList = Printer.node .root 0 none (ofTree t) :=
    String.toList_ofList
  have hallowed : (Printer.node .root 0 none (ofTree t)).all Reader.isAllowed = true :=
    List.all_eq_true.2 fun c hc =>
      isAllowed_of_isPlainChar (List.all_eq_true.1 (all_node t .root 0) c hc)
  have hcost := cost_le_length t .root 0
  have htoken := beginsToken_node t
  have hread (handles : Handles) := node_read t
    (8 * (Printer.node .root 0 none (ofTree t)).length + 16) handles .root (by omega)
    (⟨rfl, rfl⟩ : Place.root.Fits 0 .start) (.inr (Eq.refl true)) (outdents_nil _ _)
  have hend := finishesWith_node t .root 0
  rw [htext]
  generalize Printer.node .root 0 none (ofTree t) = cs at *
  obtain ⟨c, r, rfl⟩ : ∃ c r, cs = c :: r :=
    List.exists_cons_of_ne_nil (by rintro rfl; nomatch hend)
  have hstart : (Cursor.mk (c :: r) .start true 0).skip = ⟨c :: r, .start, true, 0⟩ :=
    Cursor.skip_spaces htoken .start true 0
  have hnone : Reader.directives? (8 * (c :: r).length + 16) false [] ⟨c :: r, .start, true, 0⟩ =
      some ([], false, ⟨c :: r, .start, true, 0⟩) := by
    obtain ⟨-, -, hdirective, -⟩ := htoken
    rw [Reader.directives?]
    simp [Cursor.atChar, hdirective]
  have hmarker : (Cursor.mk (c :: r) .start true 0).atMarker = false := by
    obtain ⟨-, -, -, -, hmarker⟩ := htoken
    unfold Cursor.atMarker
    rw [hmarker, Bool.and_false]
  have hnode (handles : Handles) : Reader.node handles (-1) false (8 * (c :: r).length + 16) .none
      ⟨c :: r, .start, true, 0⟩ =
        some (nodeOf t, (Cursor.mk [] (Mark.start.past (c :: r)) true 0).skip) := by
    rw [List.append_nil, hstart] at hread
    exact hread handles
  have hempty : Reader.atEnd (8 * (c :: r).length + 16)
      (Cursor.mk [] (Mark.start.past (c :: r)) true 0).skip = true := rfl
  unfold Reader.document?
  generalize 8 * (c :: r).length + 16 = fuel at hnone hnode hempty ⊢
  rw [hallowed, if_neg (by decide)]
  simp [hstart, hnone, hmarker, hnode, hempty]

end AlertSync.Yaml
