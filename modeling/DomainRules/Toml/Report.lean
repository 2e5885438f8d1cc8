import DomainRules.Text.Utf8

/-!
# Reports on TOML texts

A report shows the line of a text that a fault lies in, marks the place below it
and gives the reason.  Places are counted in bytes; the column counts characters,
except at a character of several bytes, where it counts bytes.
-/

namespace DomainRules.Toml

/-- A stretch of a text, in bytes from its front. -/
structure Span where
  start : Nat
  stop : Nat
deriving DecidableEq, Repr

/-- A fault as it is shown. -/
structure Report where
  /-- Counted from one. -/
  line : Nat
  /-- Counted from one. -/
  column : Nat
  /-- The text of the line. -/
  content : String
  /-- How many marks stand below the line, at least one. -/
  marks : Nat
  reason : String
deriving DecidableEq, Repr

/-- The words of a report. -/
def Report.message (report : Report) : String :=
  let number := toString report.line
  let gutter := "".pushn ' ' (number.length + 1) ++ "|"
  "TOML parse error at line " ++ number ++ ", column " ++ toString report.column ++ "\n" ++
    gutter ++ "\n" ++
    number ++ " | " ++ report.content ++ "\n" ++
    gutter ++ "".pushn ' ' report.column ++ "".pushn '^' report.marks ++ "\n" ++
    report.reason ++ "\n"

namespace Report

/-- Where the byte at `offset` lies: the number of the line and of the column,
both from zero, and the front of the line in bytes.  `line`, `chars` and `start`
tell the same of the place `here`, where the remaining text begins.  A place
behind the text is one behind its last byte. -/
def locate (offset : Nat) (line chars start here : Nat) : List Char → Nat × Nat
  | [] => (line, offset - start)
  | c :: rest =>
      let next := here + c.utf8Size
      if offset < next || rest.isEmpty then
        let byte := min offset (next - 1)
        let column := if byte + 1 = next then chars else byte - start
        (line, column + (offset - byte))
      else if c = '\n' then locate offset (line + 1) 0 next next rest
      else locate offset line (chars + 1) start next rest

/-- The report on a stretch of a text.  The marks count bytes and end where the
line does, however many lines the stretch goes over. -/
def of (text : String) (span : Span) (reason : String) : Report :=
  let (line, column) := locate span.start 0 0 0 0 text.toList
  let content := ((text.splitOn "\n")[line]?).getD ""
  let marks := min (span.stop - span.start) (content.utf8ByteSize - column)
  ⟨line + 1, column + 1, content, max 1 marks, reason⟩

end Report

end DomainRules.Toml
