import DomainRules.Proofs.Yaml.Scalar
import DomainRules.Yaml.Payload

/-!
# Payload documents of single lines

The item of a line without a line feed is one physical line, so a document is read
back by splitting it at its line feeds.  The main statements are the physical lines
of a document and that `decode` gives back the lines it was made of.
-/

namespace DomainRules.Yaml.Payload

/-! ## Physical lines -/

/-- The physical line of an item, without its line end. -/
def itemLine (line : String) : String :=
  "- " ++ String.ofList (scalar line.toList)

/-- The physical lines of a document. -/
def physicalLines : List String → List String
  | [] => ["payload: []"]
  | lines => "payload:" :: lines.map itemLine

theorem toList_itemLine (line : String) :
    (itemLine line).toList = '-' :: ' ' :: scalar line.toList := by
  simp [itemLine]

theorem lineFeed_notMem_itemLine {line : String} (single : '\n' ∉ line.toList) :
    '\n' ∉ (itemLine line).toList := by
  simp [toList_itemLine, lineFeed_notMem_scalar single]

theorem lineFeed_notMem_physicalLines {lines : List String}
    (single : ∀ line ∈ lines, '\n' ∉ line.toList) :
    ∀ line ∈ physicalLines lines, '\n' ∉ line.toList := by
  cases lines with
  | nil => simp [physicalLines]
  | cons first rest =>
      intro line member
      rcases List.mem_cons.mp member with rfl | isItem
      · simp
      · rcases List.mem_map.mp isItem with ⟨source, isSource, rfl⟩
        exact lineFeed_notMem_itemLine (single source isSource)

theorem style_ne_block {text : List Char} (single : '\n' ∉ text) : style text ≠ .block := by
  rw [style_of_single single]
  split
  · simp
  · split <;> simp

/-- Only blocks end in line feeds of their own. -/
theorem item_eq {line : String} (single : '\n' ∉ line.toList) :
    item line.toList = (itemLine line ++ "\n").toList := by
  simp [item, style_ne_block single, toList_itemLine]

/-- A document consists of its physical lines, each with a line feed behind it. -/
theorem render_eq {lines : List String} (single : ∀ line ∈ lines, '\n' ∉ line.toList) :
    render lines = String.join ((physicalLines lines).map (· ++ "\n")) := by
  apply String.toList_inj.mp
  cases lines with
  | nil =>
      have isLayout : layout [] = "payload: []\n".toList := rfl
      rw [render, isLayout, String.ofList_toList]
      simp [physicalLines]
  | cons first rest =>
      have isLayout : layout (first :: rest) =
          "payload:\n".toList ++ ((first :: rest).map fun line => item line.toList).flatten := rfl
      have items := List.map_congr_left fun line member => item_eq (single line member)
      rw [render, isLayout, items]
      simp [physicalLines, List.flatMap_def, Function.comp_def]

/-! ## Reading back -/

/-- Texts that end in line feeds are told apart at them. -/
theorem splitOn_join {lines : List String} (single : ∀ line ∈ lines, '\n' ∉ line.toList) :
    (String.join (lines.map (· ++ "\n"))).toList.splitOn '\n' =
      lines.map String.toList ++ [[]] := by
  induction lines with
  | nil => simp
  | cons line lines ih =>
      have others := ih fun other member => single other (List.mem_cons_of_mem _ member)
      have ends : "\n".toList = ['\n'] := rfl
      rw [String.toList_join] at others ⊢
      rw [List.map_cons, List.flatMap_cons, String.toList_append, ends, List.append_assoc,
        List.singleton_append,
        List.splitOn_append_cons_self_of_not_mem (single line List.mem_cons_self), others]
      rfl

/-- The lines of a document whose items are single lines. -/
def decode (text : String) : List String :=
  (((text.toList.splitOn '\n').drop 1).dropLast).map fun item =>
    String.ofList (readScalar (item.drop 2))

/-- Lines without a line feed are read back from their document. -/
theorem decode_render {lines : List String} (single : ∀ line ∈ lines, '\n' ∉ line.toList) :
    decode (render lines) = lines := by
  rw [decode, render_eq single, splitOn_join (lineFeed_notMem_physicalLines single)]
  cases lines with
  | nil => simp [physicalLines]
  | cons first rest =>
      have readBack : ∀ line ∈ first :: rest,
          String.ofList (readScalar ((itemLine line).toList.drop 2)) = line := by
        intro line member
        simp [toList_itemLine, readScalar_scalar (single line member)]
      have items : ((physicalLines (first :: rest)).map String.toList ++ [[]]).drop 1 =
          (first :: rest).map (String.toList ∘ itemLine) ++ [[]] := by
        simp [physicalLines]
      rw [items, List.dropLast_concat, List.map_map]
      exact (List.map_congr_left readBack).trans (List.map_id _)

end DomainRules.Yaml.Payload
