import AccessWeave.Proofs.Policy.Overlays
import AccessWeave.Proofs.Text.Pieces
import AccessWeave.Proofs.Text.Trimming

/-!
# Properties as lines of text

A line holds a key and a text around its first equals sign or colon, or it is blank or a comment.
Pairs that are written one to a line are read back, whatever stands between them and however the
lines end. Texts that are joined by a line end are read one after the other, the second on top. A
key that is read could have been written so.
-/

namespace AccessWeave

/-- The keys that can be written: trimmed, on one line, without a separator, and not taken for a
comment. -/
structure PlainKey (key : String) : Prop where
  trimmed : Text.Trimmed key.toList
  oneLine : '\n' ∉ key.toList
  whole : '=' ∉ key.toList ∧ ':' ∉ key.toList
  noComment : key.toList.head? ≠ some '#' ∧ key.toList.head? ≠ some '!'

structure PlainValue (value : String) : Prop where
  trimmed : Text.Trimmed value.toList
  oneLine : '\n' ∉ value.toList

instance (key : String) : Decidable (PlainKey key) :=
  decidable_of_iff
    (Text.Trimmed key.toList ∧ '\n' ∉ key.toList ∧ ('=' ∉ key.toList ∧ ':' ∉ key.toList) ∧
      key.toList.head? ≠ some '#' ∧ key.toList.head? ≠ some '!')
    ⟨fun ⟨trimmed, oneLine, whole, noComment⟩ => ⟨trimmed, oneLine, whole, noComment⟩,
      fun plain => ⟨plain.trimmed, plain.oneLine, plain.whole, plain.noComment⟩⟩

instance (value : String) : Decidable (PlainValue value) :=
  decidable_of_iff (Text.Trimmed value.toList ∧ '\n' ∉ value.toList)
    ⟨fun ⟨trimmed, oneLine⟩ => ⟨trimmed, oneLine⟩, fun plain => ⟨plain.trimmed, plain.oneLine⟩⟩

inductive PropertyLine
  /-- The form `key=value`. -/
  | equals (key value : String)
  /-- The form `key: value`. -/
  | colon (key value : String)
  | comment (text : String)
  | blank (text : String)

inductive LineEnd
  | lineFeed
  | carriageReturnLineFeed

namespace PropertyLine

def text : PropertyLine → String
  | equals key value => key ++ "=" ++ value
  | colon key value => key ++ ": " ++ value
  | comment text => text
  | blank text => text

def pair? : PropertyLine → Option (String × String)
  | equals key value => some (key, value)
  | colon key value => some (key, value)
  | comment _ => none
  | blank _ => none

def Plain : PropertyLine → Prop
  | equals key value => PlainKey key ∧ PlainValue value
  | colon key value => PlainKey key ∧ PlainValue value
  | comment text => '\n' ∉ text.toList ∧ ∃ indent mark rest,
      text.toList = indent ++ mark :: rest ∧
        (∀ character ∈ indent, Text.isBlank character = true) ∧ (mark = '#' ∨ mark = '!')
  | blank text => '\n' ∉ text.toList ∧ ∀ character ∈ text.toList, Text.isBlank character = true

end PropertyLine

def LineEnd.text : LineEnd → String
  | lineFeed => "\n"
  | carriageReturnLineFeed => "\r\n"

/-- The lines one after the other, each with its end. -/
def propertyText (lines : List (PropertyLine × LineEnd)) : String :=
  String.join (lines.map fun line => line.1.text ++ line.2.text)

/-- The pairs that lines were written for. -/
def propertyPairs (lines : List (PropertyLine × LineEnd)) : List (String × String) :=
  lines.filterMap fun line => line.1.pair?

namespace Properties

/-! ### One line -/

def isSeparator (character : Char) : Bool := character = '=' || character = ':'

/-- The parts of a line around its first separator; without one all of it is the first part. -/
def Parts (content before after : List Char) : Prop :=
  (∃ separator, isSeparator separator = true ∧ content = before ++ separator :: after ∧
    ∀ character ∈ before, isSeparator character = false) ∨
  (∀ character ∈ content, isSeparator character = false) ∧ before = content ∧ after = []

/-- A line without content, or one whose content begins with a comment mark. -/
def Silent (line : List Char) : Prop :=
  Text.trim line = [] ∨ (Text.trim line).head? = some '#' ∨ (Text.trim line).head? = some '!'

theorem no_separator_iff {characters : List Char} :
    (∀ character ∈ characters, isSeparator character = false) ↔
      '=' ∉ characters ∧ ':' ∉ characters := by
  constructor
  · intro none
    exact ⟨fun member => absurd (none '=' member) (by decide),
      fun member => absurd (none ':' member) (by decide)⟩
  · rintro ⟨noSign, noColon⟩ character member
    rw [isSeparator, Bool.or_eq_false_iff, decide_eq_false_iff_not, decide_eq_false_iff_not]
    exact ⟨fun same => noSign (same ▸ member), fun same => noColon (same ▸ member)⟩

theorem parts_iff {content before after : List Char} :
    (Text.cutOnce isSeparator content).getD (content, []) = (before, after) ↔
      Parts content before after := by
  unfold Parts
  cases cut : Text.cutOnce isSeparator content with
  | none =>
      have none := Text.cut_once_eq_none_iff.mp cut
      rw [Option.getD_none, Prod.mk.injEq, or_iff_right, and_iff_right none]
      · exact and_congr eq_comm eq_comm
      · rintro ⟨separator, separates, rfl, -⟩
        rw [none separator (List.mem_append_right _ List.mem_cons_self)] at separates
        cases separates
  | some parts =>
      obtain ⟨separator, separates, split, none⟩ := Text.cut_once_eq_some_iff.mp cut
      rw [Option.getD_some, ← Text.cut_once_eq_some_iff, cut, Option.some.injEq, or_iff_left]
      rintro ⟨noSeparator, -⟩
      rw [noSeparator separator (by rw [split]; exact List.mem_append_right _ List.mem_cons_self)]
        at separates
      cases separates

theorem line_entry_silent {line : List Char} (silent : Silent line) : lineEntry? line = none := by
  unfold lineEntry?
  rcases silent with empty | mark | mark
  · rw [empty]
  · obtain ⟨rest, content⟩ := List.head?_eq_some_iff.mp mark
    rw [content]
    exact if_pos (.inl rfl)
  · obtain ⟨rest, content⟩ := List.head?_eq_some_iff.mp mark
    rw [content]
    exact if_pos (.inr rfl)

theorem line_entry_of_parts {line before after : List Char} (speaks : ¬Silent line)
    (parts : Parts (Text.trim line) before after) :
    lineEntry? line
      = some (String.ofList (Text.trim before), String.ofList (Text.trim after)) := by
  unfold Silent at speaks
  unfold lineEntry?
  rw [← parts_iff] at parts
  cases content : Text.trim line with
  | nil => exact absurd (.inl content) speaks
  | cons first rest =>
      rw [content] at parts speaks
      have noMark : ¬(first = '#' ∨ first = '!') := by simpa using speaks
      have cut : (Text.cutOnce (fun character => character = '=' || character = ':')
          (first :: rest)).getD (first :: rest, []) = (before, after) := parts
      dsimp only
      rw [if_neg noMark, cut]

theorem exists_parts (content : List Char) : ∃ before after, Parts content before after :=
  ⟨_, _, parts_iff.mp rfl⟩

/-! ### What is read -/

theorem Parts.split {content before after : List Char} (parts : Parts content before after) :
    (∃ rest, content = before ++ rest ∧ ∀ character ∈ after, character ∈ rest) ∧
      ∀ character ∈ before, isSeparator character = false := by
  rcases parts with ⟨separator, -, rfl, none⟩ | ⟨none, rfl, rfl⟩
  · exact ⟨⟨separator :: after, rfl, fun _ member => List.mem_cons_of_mem _ member⟩, none⟩
  · exact ⟨⟨[], (List.append_nil _).symm, by simp⟩, none⟩

/-- A key begins with what its line begins with, if it begins at all. -/
theorem head_trim_before {content before rest : List Char} (trimmed : Text.Trimmed content)
    (split : content = before ++ rest) :
    Text.trim before = [] ∨ (Text.trim before).head? = content.head? := by
  cases before with
  | nil => exact .inl rfl
  | cons first others =>
      right
      have same : content.head? = (first :: others).head? := by rw [split]; rfl
      rw [same]
      apply Text.head_trim
      rw [← same]
      exact trimmed.1

theorem plain_of_parts {line before after : List Char} (speaks : ¬Silent line)
    (oneLine : '\n' ∉ line) (parts : Parts (Text.trim line) before after) :
    PlainKey (String.ofList (Text.trim before)) ∧
      PlainValue (String.ofList (Text.trim after)) := by
  obtain ⟨⟨rest, split, later⟩, none⟩ := parts.split
  have inLine : ∀ character, character ∈ before ∨ character ∈ after → character ∈ line := by
    intro character member
    apply Text.mem_of_mem_trim
    rw [split, List.mem_append]
    exact member.imp_right (later character)
  have noMark : ∀ mark, (mark = '#' ∨ mark = '!') → (Text.trim before).head? ≠ some mark := by
    intro mark marks head
    rcases head_trim_before (Text.trim_trimmed line) split with empty | same
    · simp [empty] at head
    · rw [same] at head
      rcases marks with rfl | rfl
      · exact speaks (.inr (.inl head))
      · exact speaks (.inr (.inr head))
  constructor
  · constructor <;> rw [String.toList_ofList]
    · exact Text.trim_trimmed before
    · exact fun member => oneLine (inLine _ (.inl (Text.mem_of_mem_trim member)))
    · exact no_separator_iff.mp fun character member =>
        none character (Text.mem_of_mem_trim member)
    · exact ⟨noMark '#' (.inl rfl), noMark '!' (.inr rfl)⟩
  · constructor <;> rw [String.toList_ofList]
    · exact Text.trim_trimmed after
    · exact fun member => oneLine (inLine _ (.inr (Text.mem_of_mem_trim member)))

/-- Whatever a line says can be written. -/
theorem plain_of_line_entry {line : List Char} {key value : String} (oneLine : '\n' ∉ line)
    (said : lineEntry? line = some (key, value)) : PlainKey key ∧ PlainValue value := by
  have speaks : ¬Silent line := by
    intro silent
    rw [line_entry_silent silent] at said
    cases said
  obtain ⟨before, after, parts⟩ := exists_parts (Text.trim line)
  rw [line_entry_of_parts speaks parts, Option.some.injEq, Prod.mk.injEq] at said
  rw [← said.1, ← said.2]
  exact plain_of_parts speaks oneLine parts

/-! ### What is written -/

theorem trimmed_around {before after : List Char} {separator : Char}
    (trimmed : Text.Trimmed before) (solid : Text.isBlank separator = false)
    (last : ∀ character ∈ after.getLast?, Text.isBlank character = false) :
    Text.Trimmed (before ++ separator :: after) := by
  constructor
  · cases before with
    | nil => simpa using solid
    | cons first others => exact trimmed.1
  · rw [List.getLast?_append_cons, List.getLast?_cons]
    cases ending : after.getLast? with
    | none => simpa using solid
    | some character => simpa using last character ending

theorem speaks_of_separator {line after : List Char} {key : String} {separator : Char}
    (plain : PlainKey key) (separates : separator = '=' ∨ separator = ':')
    (content : Text.trim line = key.toList ++ separator :: after) : ¬Silent line := by
  have head : (Text.trim line).head? = key.toList.head?.or (some separator) := by
    rw [content, List.head?_append, List.head?_cons]
  unfold Silent
  rw [head]
  have noMark := plain.noComment
  cases first : key.toList.head? with
  | none => rcases separates with rfl | rfl <;> simp [content]
  | some character =>
      rw [first] at noMark
      simpa [content] using noMark

theorem trim_around_separator {before value gap back : List Char} {separator : Char}
    (trimmed : Text.Trimmed before) (trimmedValue : Text.Trimmed value)
    (solid : Text.isBlank separator = false)
    (blankGap : ∀ character ∈ gap, Text.isBlank character = true)
    (blankBack : ∀ character ∈ back, Text.isBlank character = true) :
    ∃ after, Text.trim (before ++ separator :: (gap ++ value ++ back))
      = before ++ separator :: after ∧ Text.trim after = value := by
  by_cases empty : value = []
  · -- Without a value the blanks behind the separator end the line and are taken off too.
    refine ⟨[], ?_, empty.symm⟩
    have split : before ++ separator :: (gap ++ value ++ back)
        = (before ++ [separator]) ++ (gap ++ back) := by
      simp [empty]
    rw [split, Text.trim_append_blank (List.forall_mem_append.mpr ⟨blankGap, blankBack⟩)]
    exact Text.trim_of_trimmed (trimmed_around trimmed solid (by simp))
  · refine ⟨gap ++ value, ?_, ?_⟩
    · have last : ∀ character ∈ (gap ++ value).getLast?, Text.isBlank character = false := by
        rw [List.getLast?_append_of_ne_nil _ empty]
        exact trimmedValue.2
      have split : before ++ separator :: (gap ++ value ++ back)
          = (before ++ separator :: (gap ++ value)) ++ back := by
        simp
      rw [split, Text.trim_append_blank blankBack]
      exact Text.trim_of_trimmed (trimmed_around trimmed solid last)
    · rw [Text.trim_blank_append blankGap, Text.trim_of_trimmed trimmedValue]

/-- A pair is read from a line that has blanks behind the separator and at its end. -/
theorem line_entry_of_pair (gap : List Char) {key value : String} {separator : Char}
    {back : List Char} (plainKey : PlainKey key) (plainValue : PlainValue value)
    (separates : separator = '=' ∨ separator = ':')
    (blankGap : ∀ character ∈ gap, Text.isBlank character = true)
    (blankBack : ∀ character ∈ back, Text.isBlank character = true) :
    lineEntry? (key.toList ++ separator :: (gap ++ value.toList ++ back)) = some (key, value) := by
  have solid : Text.isBlank separator = false := by
    rcases separates with rfl | rfl <;> decide
  have parted : isSeparator separator = true := by
    rcases separates with rfl | rfl <;> rfl
  have inKey := no_separator_iff.mpr plainKey.whole
  obtain ⟨after, content, text⟩ :=
    trim_around_separator plainKey.trimmed plainValue.trimmed solid blankGap blankBack
  rw [line_entry_of_parts (speaks_of_separator plainKey separates content)
      (.inl ⟨separator, parted, content, inKey⟩),
    Text.trim_of_trimmed plainKey.trimmed, text, String.ofList_toList, String.ofList_toList]

theorem silent_of_mark {indent rest : List Char} {mark : Char}
    (blank : ∀ character ∈ indent, Text.isBlank character = true)
    (marks : mark = '#' ∨ mark = '!') : Silent (indent ++ mark :: rest) := by
  have head : (Text.trim (indent ++ mark :: rest)).head? = some mark := by
    rw [Text.trim_blank_append blank]
    apply Text.head_trim
    rcases marks with rfl | rfl <;> simp <;> decide
  rcases marks with rfl | rfl
  · exact .inr (.inl head)
  · exact .inr (.inr head)

/-- A line is read as what it was written for, whatever blanks stand in front of its end. -/
theorem line_entry_of_line {line : PropertyLine} {back : List Char} (plain : line.Plain)
    (blankBack : ∀ character ∈ back, Text.isBlank character = true) :
    lineEntry? (line.text.toList ++ back) = line.pair? := by
  cases line with
  | equals key value =>
      have read := line_entry_of_pair [] plain.1 plain.2 (.inl rfl) (by simp) blankBack
      simpa [PropertyLine.text, PropertyLine.pair?] using read
  | colon key value =>
      have read := line_entry_of_pair [' '] plain.1 plain.2 (.inr rfl)
        (List.forall_mem_singleton.mpr rfl) blankBack
      simpa [PropertyLine.text, PropertyLine.pair?] using read
  | comment text =>
      obtain ⟨-, indent, mark, rest, split, blank, marks⟩ := plain
      rw [PropertyLine.text, split, List.append_assoc, List.cons_append]
      exact line_entry_silent (silent_of_mark blank marks)
  | blank text =>
      exact line_entry_silent (.inl (Text.trim_eq_nil_iff.mpr
        (List.forall_mem_append.mpr ⟨plain.2, blankBack⟩)))

theorem no_line_feed_of_plain {line : PropertyLine} (plain : line.Plain) :
    '\n' ∉ line.text.toList := by
  cases line with
  | equals key value =>
      simpa [PropertyLine.text] using ⟨plain.1.oneLine, plain.2.oneLine⟩
  | colon key value =>
      simpa [PropertyLine.text] using ⟨plain.1.oneLine, plain.2.oneLine⟩
  | comment text => exact plain.1
  | blank text => exact plain.1

/-! ### Texts -/

/-- Lines have the pairs that they were written for. -/
theorem entries_of_property_text {lines : List (PropertyLine × LineEnd)}
    (plain : ∀ line ∈ lines, line.1.Plain) :
    (Text.pieces '\n' (propertyText lines).toList).filterMap lineEntry? = propertyPairs lines := by
  induction lines with
  | nil => rfl
  | cons line lines induction =>
      rw [List.forall_mem_cons] at plain
      -- A carriage return in front of the line feed is a blank at the end of the line.
      obtain ⟨back, ending, noFeed, blankBack⟩ : ∃ back : List Char,
          line.2.text.toList = back ++ ['\n'] ∧ '\n' ∉ back ∧
            ∀ character ∈ back, Text.isBlank character = true := by
        cases line.2 with
        | lineFeed => exact ⟨[], rfl, by decide, by simp⟩
        | carriageReturnLineFeed =>
            exact ⟨['\r'], rfl, by decide, List.forall_mem_singleton.mpr rfl⟩
      have whole : '\n' ∉ line.1.text.toList ++ back := by
        rw [List.mem_append, not_or]
        exact ⟨no_line_feed_of_plain plain.1, noFeed⟩
      have split : (propertyText (line :: lines)).toList
          = (line.1.text.toList ++ back) ++ '\n' :: (propertyText lines).toList := by
        simp [propertyText, String.join_cons, ending]
      rw [split, Text.pieces_append, Text.pieces_whole whole, List.filterMap_append,
        induction plain.2, propertyPairs, propertyPairs, List.filterMap_cons, List.filterMap_cons,
        List.filterMap_nil, line_entry_of_line plain.1 blankBack]
      cases line.1.pair? <;> rfl

theorem find_of_text_iff {text key value : String} :
    (ofText text).find? key = some value ↔
      LastSets (fun line key value => lineEntry? line = some (key, value))
        (Text.pieces '\n' text.toList) key value :=
  find_of_list_iff fun _ _ _ => Iff.rfl

theorem of_text_append (first second : String) :
    ofText (first ++ "\n" ++ second) = (ofText first).overlay (ofText second).entries := by
  have split : (first ++ "\n" ++ second).toList = first.toList ++ '\n' :: second.toList := by
    simp
  apply ext_find
  intro key
  rw [find_overlay_entries, ofText, split, Text.pieces_append, List.filterMap_append, ofList,
    overlay_append, find_overlay]
  rfl

/-- Pairs with different keys that are written one to a line, with any comments, blank lines and
line ends, are read back and nothing else is. Of two texts with a line end between them the second
lies over the first. Every key and every value that is read could have been written. -/
theorem property_text_is_read_exactly :
    (∀ lines : List (PropertyLine × LineEnd), (∀ line ∈ lines, line.1.Plain) →
      ((propertyPairs lines).map Prod.fst).Nodup →
        ofText (propertyText lines) = ofList (propertyPairs lines) ∧
          ∀ key value, (ofText (propertyText lines)).find? key = some value ↔
            (key, value) ∈ propertyPairs lines) ∧
    (∀ first second : String,
      ofText (first ++ "\n" ++ second) = (ofText first).overlay (ofText second).entries ∧
        ∀ key, (ofText (first ++ "\n" ++ second)).find? key =
          ((ofText second).find? key).or ((ofText first).find? key)) ∧
    ∀ (text : String) key value, (ofText text).find? key = some value →
      PlainKey key ∧ PlainValue value := by
  refine ⟨?_, ?_, ?_⟩
  · intro lines plain distinct
    have read : ofText (propertyText lines) = ofList (propertyPairs lines) := by
      rw [ofText, entries_of_property_text plain]
    exact ⟨read, fun key value => by rw [read, find_of_list_of_distinct distinct]⟩
  · intro first second
    refine ⟨of_text_append first second, ?_⟩
    intro key
    rw [of_text_append, find_overlay_entries]
  · intro text key value found
    obtain ⟨front, line, back, split, said, -⟩ := find_of_text_iff.mp found
    have piece : line ∈ Text.pieces '\n' text.toList := by
      rw [split]
      exact List.mem_append_right _ List.mem_cons_self
    exact plain_of_line_entry (Text.separator_not_mem_piece piece) said

/-- Comments, blank lines, both line ends, an empty key, an empty text, and texts that hold
separators and comment marks. -/
def awkwardLines : List (PropertyLine × LineEnd) :=
  [(.comment " # a=b", .lineFeed), (.equals "" "=:", .carriageReturnLineFeed),
    (.colon "é b" "", .lineFeed), (.blank " \t", .carriageReturnLineFeed),
    (.equals "k" "# v: w", .carriageReturnLineFeed), (.comment "!", .lineFeed)]

theorem awkward_lines_are_read :
    (∀ line ∈ awkwardLines, line.1.Plain) ∧
      ((propertyPairs awkwardLines).map Prod.fst).Nodup ∧
      ofText " # a=b\n==:\r\né b: \n \t\r\nk=# v: w\r\n!\n"
        = ofList [("", "=:"), ("k", "# v: w"), ("é b", "")] := by
  have plain : ∀ line ∈ awkwardLines, line.1.Plain := by
    simp only [awkwardLines, List.forall_mem_cons]
    have comment : PropertyLine.Plain (.comment " # a=b") :=
      ⟨by decide, [' '], '#', [' ', 'a', '=', 'b'], rfl, List.forall_mem_singleton.mpr rfl,
        .inl rfl⟩
    have blank : PropertyLine.Plain (.blank " \t") :=
      ⟨by decide, List.all_eq_true.mp (by decide)⟩
    exact ⟨comment, ⟨by decide, by decide⟩, ⟨by decide, by decide⟩, blank,
      ⟨by decide, by decide⟩, ⟨by decide, [], '!', [], rfl, by simp, .inr rfl⟩, by simp⟩
  have distinct : ((propertyPairs awkwardLines).map Prod.fst).Nodup := by decide
  have read := (property_text_is_read_exactly.1 awkwardLines plain distinct).1
  have text : propertyText awkwardLines = " # a=b\n==:\r\né b: \n \t\r\nk=# v: w\r\n!\n" := by
    decide +kernel
  refine ⟨plain, distinct, ?_⟩
  rw [← text, read]
  decide +kernel

end Properties

end AccessWeave
