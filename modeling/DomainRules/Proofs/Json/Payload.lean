import Mathlib.Data.List.Basic
import DomainRules.Json.Payload
import DomainRules.Proofs.Json.Quoted
import DomainRules.Proofs.Output.Writer
import DomainRules.Proofs.Text.Utf8

/-!
# Payload documents read back

A payload document is read back whatever white space stands between its tokens.  The
white space of one way to write it is a `Spacing`; every spacing is covered by one
induction on the lines.  The main statement is that the lines are read back from the
document that a writer receives, over several lines and with a line end behind it, and
from the document on one line.
-/

namespace DomainRules.Json

open Utf8 (Symbol)

/-! ## Steps of the loops -/

namespace Reader

variable {α : Type} {element : Reader α} {source rest after : Source} {symbol : Symbol}
  {item : α} {front : List α} {limit : Nat}

theorem elements_of_element (begins : skipSpace source = symbol :: rest)
    (isElement : symbol ≠ .char ']') (read : element (symbol :: rest) = .ok (item, after)) :
    elements element limit source = moreElements element limit [item] after := by
  rw [elements, begins]
  split
  · next absent => cases absent
  · next closes => exact absurd (List.cons.inj closes).1 isElement
  · next same =>
      cases same
      rw [read]

theorem moreElements_of_bracket (closes : skipSpace source = .char ']' :: rest) :
    moreElements element limit front source = .ok (front.reverse, rest) := by
  rw [moreElements.eq_def, closes]
  cases limit <;> rfl

theorem moreElements_of_element {tail : Source} (comma : skipSpace source = .char ',' :: tail)
    (begins : skipSpace tail = symbol :: rest) (isElement : symbol ≠ .char ']')
    (read : element (symbol :: rest) = .ok (item, after)) :
    moreElements element (limit + 1) front source =
      moreElements element limit (item :: front) after := by
  rw [moreElements.eq_def, comma]
  simp only [begins, read]

variable {field : α → String → Reader α} {start result : α} {key : String} {behindKey : Source}

theorem fields_of_field (begins : skipSpace source = .char '"' :: rest)
    (isKey : Quoted.decode rest = .ok (key, behindKey))
    (read : field start key behindKey = .ok (result, after)) :
    fields field limit start source = moreFields field limit result after := by
  rw [fields, begins]
  simp only [isKey, read]

theorem moreFields_of_brace (closes : skipSpace source = .char '\x7d' :: rest) :
    moreFields field limit result source = .ok (result, .char '\x7d' :: rest) := by
  rw [moreFields.eq_def, closes]
  cases limit <;> rfl

end Reader

namespace Payload

/-- White space between two tokens. -/
abbrev Gap := {gap : Source // ∀ symbol ∈ gap, Reader.isSpace symbol = true}

/-- The white space of a document, by the token that it stands in front of. -/
structure Spacing where
  key : Gap
  list : Gap
  item : Gap
  bracket : Gap
  brace : Gap

/-- A text between quotes, as symbols. -/
def quoted (text : String) : Source :=
  (Quoted.encode text.toList).map .char

namespace Spacing

/-- The items of a list behind the first, and the closing bracket. -/
def moreItems (spacing : Spacing) (lines : List String) : Source :=
  lines.flatMap (fun line => .char ',' :: (spacing.item.1 ++ quoted line)) ++
    (spacing.bracket.1 ++ [.char ']'])

/-- The items of a list and its closing bracket. -/
def items (spacing : Spacing) : List String → Source
  | [] => [.char ']']
  | first :: rest => spacing.item.1 ++ quoted first ++ spacing.moreItems rest

/-- The document of a list of lines. -/
def document (spacing : Spacing) (lines : List String) : Source :=
  .char '\x7b' :: (spacing.key.1 ++ quoted Payload.key ++ .char ':' :: (spacing.list.1 ++
    .char '[' :: (spacing.items lines ++ (spacing.brace.1 ++ [.char '\x7d']))))

/-- The white space of a document over several lines. -/
def lined : Spacing where
  key := ⟨"\n  ".toList.map .char, by decide⟩
  list := ⟨" ".toList.map .char, by decide⟩
  item := ⟨"\n    ".toList.map .char, by decide⟩
  bracket := ⟨"\n  ".toList.map .char, by decide⟩
  brace := ⟨"\n".toList.map .char, by decide⟩

/-- No white space, as in a document on one line. -/
def dense : Spacing where
  key := ⟨[], by decide⟩
  list := ⟨[], by decide⟩
  item := ⟨[], by decide⟩
  bracket := ⟨[], by decide⟩
  brace := ⟨[], by decide⟩

end Spacing

/-! ## Tokens -/

theorem skipSpace_gap (gap : Gap) (rest : Source) :
    Reader.skipSpace (gap.1 ++ rest) = Reader.skipSpace rest :=
  List.dropWhile_append_of_pos gap.2

/-- What stands between the quotes of a text. -/
def contents (text : String) : Source :=
  (text.toList.flatMap Quoted.encodeChar).map .char

/-- A quoted text begins with its quote, which is no white space. -/
theorem skipSpace_gap_quoted (gap : Gap) (text : String) (rest : Source) :
    Reader.skipSpace (gap.1 ++ (quoted text ++ rest)) =
      .char '"' :: (contents text ++ .char '"' :: rest) := by
  rw [skipSpace_gap]
  simp [quoted, Quoted.encode, contents, Reader.skipSpace, Reader.isSpace]

theorem line_contents (text : String) (rest : Source) :
    line (.char '"' :: (contents text ++ .char '"' :: rest)) = .ok (text, rest) :=
  Quoted.decode_flatMap_encodeChar text rest

/-! ## Lists -/

variable (spacing : Spacing)

/-- The loop reads one item at each comma.  The items read before it stand in front. -/
theorem moreElements_moreItems (front lines : List String) (rest : Source) {limit : Nat}
    (enough : lines.length ≤ limit) :
    Reader.moreElements line limit front (spacing.moreItems lines ++ rest) =
      .ok (front.reverse ++ lines, rest) := by
  induction lines generalizing front limit with
  | nil =>
      have closes : Reader.skipSpace (spacing.moreItems [] ++ rest) = .char ']' :: rest := by
        rw [Spacing.moreItems, List.flatMap_nil, List.nil_append, List.append_assoc,
          skipSpace_gap]
        rfl
      rw [Reader.moreElements_of_bracket closes, List.append_nil]
  | cons first lines ih =>
      cases limit with
      | zero => simp at enough
      | succ limit =>
          have comma : Reader.skipSpace (spacing.moreItems (first :: lines) ++ rest) =
              .char ',' ::
                (spacing.item.1 ++ (quoted first ++ (spacing.moreItems lines ++ rest))) := by
            simp [Spacing.moreItems]
            rfl
          have begins := skipSpace_gap_quoted spacing.item first (spacing.moreItems lines ++ rest)
          have read := line_contents first (spacing.moreItems lines ++ rest)
          rw [Reader.moreElements_of_element comma begins (by decide) read,
            ih (first :: front) (Nat.le_of_succ_le_succ enough)]
          simp

theorem elements_items (lines : List String) (rest : Source) {limit : Nat}
    (enough : lines.length ≤ limit) :
    Reader.elements line limit (spacing.items lines ++ rest) = .ok (lines, rest) := by
  cases lines with
  | nil => rfl
  | cons first lines =>
      have begins := skipSpace_gap_quoted spacing.item first (spacing.moreItems lines ++ rest)
      have read := line_contents first (spacing.moreItems lines ++ rest)
      rw [Spacing.items, List.append_assoc, List.append_assoc,
        Reader.elements_of_element begins (by decide) read,
        moreElements_moreItems spacing [first] lines rest (Nat.le_of_succ_le enough)]
      rfl

/-! ## Documents -/

/-- The field with the lines, behind its key. -/
theorem field_items (lines : List String) (rest : Source) {limit : Nat}
    (enough : lines.length ≤ limit) :
    field limit none key
        (.char ':' :: (spacing.list.1 ++ .char '[' :: (spacing.items lines ++ rest))) =
      .ok (some lines, rest) := by
  have opens : Reader.skipSpace
      (spacing.list.1 ++ .char '[' :: (spacing.items lines ++ rest)) =
        .char '[' :: (spacing.items lines ++ rest) := by
    rw [skipSpace_gap]
    rfl
  have read : Payload.lines limit
      (spacing.list.1 ++ .char '[' :: (spacing.items lines ++ rest)) = .ok (lines, rest) := by
    rw [Payload.lines, opens]
    exact elements_items spacing lines rest enough
  have colon (source : Source) : Reader.colon (.char ':' :: source) = .ok source := rfl
  simp [field, colon, read, Except.map]

/-- A document is read back whatever its white space is. -/
theorem document_document (lines : List String) (rest : Source) {limit : Nat}
    (enough : lines.length ≤ limit) :
    document limit (spacing.document lines ++ rest) = .ok (lines, rest) := by
  let close : Source := spacing.brace.1 ++ .char '\x7d' :: rest
  let behindKey : Source :=
    .char ':' :: (spacing.list.1 ++ .char '[' :: (spacing.items lines ++ close))
  have splits : spacing.document lines ++ rest =
      .char '\x7b' :: (spacing.key.1 ++ (quoted key ++ behindKey)) := by
    simp [Spacing.document, behindKey, close]
  have begins := skipSpace_gap_quoted spacing.key key behindKey
  have closes : Reader.skipSpace close = .char '\x7d' :: rest := by
    rw [skipSpace_gap]
    rfl
  have isKey := Quoted.decode_flatMap_encodeChar key behindKey
  have fields : Reader.fields (field limit) limit none
      (spacing.key.1 ++ (quoted key ++ behindKey)) =
        .ok (some lines, .char '\x7d' :: rest) := by
    rw [Reader.fields_of_field begins isKey (field_items spacing lines close enough),
      Reader.moreFields_of_brace closes]
  have opens : Reader.skipSpace (.char '\x7b' :: (spacing.key.1 ++ (quoted key ++ behindKey))) =
      .char '\x7b' :: (spacing.key.1 ++ (quoted key ++ behindKey)) := rfl
  rw [splits, document, opens]
  simp only [fields]
  rfl

/-- Every line adds to the length of its document. -/
theorem length_le_length_document (lines : List String) :
    lines.length ≤ (spacing.document lines).length := by
  have perLine : ∀ others : List String,
      others.length ≤ (others.flatMap fun line =>
        (.char ',' :: (spacing.item.1 ++ quoted line) : Source)).length := by
    intro others
    induction others with
    | nil => simp
    | cons line others ih =>
        simp only [List.flatMap_cons, List.length_append, List.length_cons]
        omega
  cases lines with
  | nil => simp
  | cons first others =>
      have bound := perLine others
      simp only [Spacing.document, Spacing.items, Spacing.moreItems, List.length_append,
        List.length_cons]
      omega

/-- A document with only white space behind it is read back from its text. -/
theorem decode_of_document (behind : Gap) {text : String} {lines : List String}
    (isDocument : Utf8.ofString text = spacing.document lines ++ behind.1) :
    decode text = .ok lines := by
  have enough : lines.length ≤ (spacing.document lines ++ behind.1).length := by
    rw [List.length_append]
    exact Nat.le_add_right_of_le (length_le_length_document spacing lines)
  have ends : Reader.skipSpace behind.1 = [] := by
    have skipped := skipSpace_gap behind []
    rwa [List.append_nil] at skipped
  simp only [decode, isDocument, Reader.whole, document_document spacing lines behind.1 enough,
    ends]

theorem layout_cons (first : String) (rest : List String) :
    layout (first :: rest) =
      '\x7b' :: ("\n  ".toList ++ Quoted.encode key.toList ++ ':' :: (" ".toList ++
        '[' :: ("\n    ".toList ++ Quoted.encode first.toList ++
          rest.flatMap (fun line => ',' :: ("\n    ".toList ++ Quoted.encode line.toList)) ++
          "\n  ".toList ++ ']' :: ("\n".toList ++ ['\x7d'])))) := by
  change "\x7b\n  ".toList ++ _ ++ ": [\n    ".toList ++ _ ++ _ ++ "\n  ]\n\x7d".toList = _
  have opening : "\x7b\n  ".toList = '\x7b' :: "\n  ".toList := rfl
  have list : ": [\n    ".toList = ':' :: (" ".toList ++ '[' :: "\n    ".toList) := rfl
  have closing : "\n  ]\n\x7d".toList = "\n  ".toList ++ ']' :: ("\n".toList ++ ['\x7d']) := rfl
  rw [opening, list, closing]
  simp only [List.append_assoc, List.cons_append]
  rfl

theorem map_layout (lines : List String) :
    (layout lines).map Symbol.char = Spacing.lined.document lines := by
  cases lines with
  | nil => rfl
  | cons first lines =>
      simp only [layout_cons, Spacing.document, Spacing.items, Spacing.moreItems, Spacing.lined,
        quoted, List.map_append, List.map_cons, List.map_nil, List.map_flatMap, List.append_assoc,
        List.cons_append, List.nil_append]

/-- The lines of a document over several lines are read back, all of them and in
their order. -/
theorem decode_render (lines : List String) : decode (render lines ++ "\n") = .ok lines := by
  apply decode_of_document Spacing.lined ⟨[.char '\n'], by decide⟩
  rw [Utf8.ofString, render, String.toList_append, String.toList_ofList, List.map_append,
    map_layout]
  rfl

/-! ## Documents on one line -/

theorem ofString_join (pieces : List String) :
    Utf8.ofString (String.join pieces) = pieces.flatMap Utf8.ofString := by
  rw [Utf8.ofString, String.toList_join, List.map_flatMap]
  rfl

theorem ofString_quote (text : String) : Utf8.ofString (quote text) = quoted text := by
  rw [Utf8.ofString, quote, String.toList_ofList, quoted]

theorem ofString_itemPieces (lines : List String) :
    (Value.itemPieces (lines.map .string)).flatMap Utf8.ofString =
      lines.flatMap fun line => .char ',' :: quoted line := by
  induction lines with
  | nil => rfl
  | cons line lines ih =>
      have comma : Utf8.ofString "," = [.char ','] := rfl
      rw [List.map_cons, Value.itemPieces, Value.pieces, List.flatMap_cons, ← ih]
      simp [comma, ofString_quote]

theorem ofString_compact (lines : List String) :
    Utf8.ofString (compact lines) = Spacing.dense.document lines := by
  have brace : Utf8.ofString "\x7b" = [.char '\x7b'] := rfl
  have colon : Utf8.ofString ":" = [.char ':'] := rfl
  have closing : Utf8.ofString "\x7d" = [.char '\x7d'] := rfl
  have opens : Utf8.ofString "[" = [.char '['] := rfl
  have closes : Utf8.ofString "]" = [.char ']'] := rfl
  have empty : Utf8.ofString "[]" = [.char '[', .char ']'] := rfl
  rw [compact, Value.compact, ofString_join]
  cases lines with
  | nil =>
      simp [Value.pieces, Value.fieldPieces, Spacing.document, Spacing.items, Spacing.dense,
        ofString_quote, brace, colon, closing, empty]
  | cons first lines =>
      simp [Value.pieces, Value.fieldPieces, Spacing.document, Spacing.items, Spacing.moreItems,
        Spacing.dense, ofString_quote, ofString_itemPieces, brace, colon, closing, opens, closes]

/-- The lines of a document on one line are read back, too. -/
theorem decode_compact (lines : List String) : decode (compact lines) = .ok lines := by
  apply decode_of_document Spacing.dense ⟨[], by decide⟩
  rw [ofString_compact, List.append_nil]

/-- Whatever lines are written as JSON are read back from the bytes, in whatever portions
a writer takes these.  Whatever lines a document holds are read back from the document on
one line that is made of them. -/
theorem decode_writeLines_json :
    (∀ (portions : List Nat) (lines : List String),
      let (result, writer) := Writer.writeLines { portions } .json lines
      result = .ok () ∧
        ∃ text, Utf8.decode? writer.received = some text ∧ text = render lines ++ "\n" ∧
          decode text = .ok lines) ∧
      ∀ (document : String) (lines : List String), decode document = .ok lines →
        decode (compact lines) = decode document := by
  constructor
  · intro portions lines
    have unlimited : ({ portions } : Writer).room = none := rfl
    obtain ⟨result, received⟩ := Writer.writeLines_of_unlimited unlimited .json lines
    refine ⟨result, render lines ++ "\n", ?_, rfl, decode_render lines⟩
    exact Utf8.decode?_eq_some_iff.mpr received.symm
  · intro document lines decoded
    rw [decoded, decode_compact]

/-- A document with a field of its own, escapes and surrogates. -/
def escapedDocument : String :=
  "\x7b\"v\": [1, \x7b\"payload\": null\x7d], " ++
    "\"payload\" :[\"\\ud83d\\ude00\", \"\\/\\n\"]\x7d"

theorem decode_compact_of_escapes :
    decode escapedDocument = .ok ["😀", "/\n"] ∧
      decode (compact ["😀", "/\n"]) = .ok ["😀", "/\n"] := by
  have decoded : decode escapedDocument = .ok ["😀", "/\n"] := by decide +kernel
  exact ⟨decoded, (decode_writeLines_json.2 escapedDocument _ decoded).trans decoded⟩

end Payload

end DomainRules.Json
