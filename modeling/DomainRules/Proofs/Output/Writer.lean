import DomainRules.Output.Writer

/-!
# What a writer receives

Offering bytes again and again makes a writer receive as many of them as it has room
for, in whatever portions it takes them and in whatever pieces they are written.  The
main statements give what a writer has received of the text of the lines, and how
writing it ends; a writer without a limit receives all of it.
-/

namespace DomainRules.Writer

/-- How many of the bytes that it is offered a writer has room for. -/
def capacity (writer : Writer) (offered : Nat) : Nat :=
  match writer.room with
  | none => offered
  | some room => min offered room

/-- The fault of a writer that has no room left. -/
def refusalFault (writer : Writer) : IoFault :=
  match writer.refusal with
  | .fault => .full
  | .silence => .shortWrite

/-- A writer that has received more bytes and has less room left for it. -/
def receive (writer : Writer) (bytes : List UInt8) (portions : List Nat) : Writer :=
  ⟨writer.received ++ bytes, writer.room.map (· - bytes.length), portions, writer.refusal,
    writer.flushFails⟩

theorem capacity_le (writer : Writer) (offered : Nat) : writer.capacity offered ≤ offered := by
  unfold capacity
  split <;> omega

/-- A writer takes a part of what it has room for, and some of it unless it has none. -/
theorem share_bounds (writer : Writer) (offered : Nat) :
    writer.share offered ≤ writer.capacity offered ∧
      (writer.share offered = 0 → writer.capacity offered = 0) := by
  unfold share capacity
  cases writer.portions with
  | nil => cases writer.room <;> simp
  | cons most rest =>
      constructor
      · cases writer.room <;> dsimp only <;> omega
      · cases writer.room <;> dsimp only <;> omega

theorem offer_eq (writer : Writer) (bytes : List UInt8) :
    writer.offer bytes =
      (if writer.share bytes.length = 0 && writer.refusal = .fault then .error .full
        else .ok (writer.share bytes.length),
        writer.receive (bytes.take (writer.share bytes.length)) (writer.portions.drop 1)) := by
  have atMost := capacity_le writer bytes.length
  have share := (share_bounds writer bytes.length).1
  have taken : (bytes.take (writer.share bytes.length)).length = writer.share bytes.length := by
    rw [List.length_take]
    omega
  rw [offer, receive, taken]
  split <;> rfl

/-- After a part has been taken, there is room for the same bytes in all. -/
theorem capacity_receive (writer : Writer) (bytes : List UInt8) (portions : List Nat) {count : Nat}
    (within : count ≤ writer.capacity bytes.length) :
    (writer.receive (bytes.take count) portions).capacity (bytes.drop count).length =
      writer.capacity bytes.length - count := by
  have atMost := capacity_le writer bytes.length
  unfold receive capacity at *
  cases room : writer.room with
  | none => simp
  | some room =>
      rw [room] at within
      simp only [Option.map_some, List.length_drop, List.length_take] at *
      omega

theorem receive_receive (writer : Writer) (first second : List UInt8) (old new : List Nat) :
    (writer.receive first old).receive second new = writer.receive (first ++ second) new := by
  unfold receive
  cases writer.room <;> simp [Nat.sub_sub]

/-- A writer receives what it has room for and refuses the rest. -/
theorem writeAll_eq (writer : Writer) (bytes : List UInt8) :
    ∃ portions,
      writer.writeAll bytes =
        (if writer.capacity bytes.length = bytes.length then .ok ()
          else .error writer.refusalFault,
          writer.receive (bytes.take (writer.capacity bytes.length)) portions) := by
  have atMost := capacity_le writer bytes.length
  rcases share_bounds writer bytes.length with ⟨within, none_of_none⟩
  rw [writeAll]
  split
  · next empty =>
      subst empty
      have full : writer.capacity 0 = 0 := Nat.le_zero.mp (capacity_le writer 0)
      exact ⟨writer.portions, by simp [full, receive]⟩
  · next present =>
      have positive : bytes.length ≠ 0 := by simpa using present
      rw [offer_eq]
      cases taken : writer.share bytes.length with
      | zero =>
          have full := none_of_none taken
          rw [full]
          refine ⟨writer.portions.drop 1, ?_⟩
          cases refusal : writer.refusal <;>
            simp [refusal, refusalFault, Ne.symm positive]
      | succ count =>
          rw [taken] at within
          have left := capacity_receive writer bytes (writer.portions.drop 1) within
          have rest : writer.capacity bytes.length =
              (count + 1) + (writer.capacity bytes.length - (count + 1)) := by
            omega
          obtain ⟨portions, run⟩ := writeAll_eq
            (writer.receive (bytes.take (count + 1)) (writer.portions.drop 1))
            (bytes.drop (count + 1))
          refine ⟨portions, ?_⟩
          simp only [Nat.add_eq_zero_iff, Nat.succ_ne_self, and_false, decide_false,
            Bool.false_and, Bool.false_eq_true, if_false]
          rw [run, left, receive_receive, List.length_drop, ← List.take_add, ← rest]
          congr 2
          simp only [eq_iff_iff]
          omega
termination_by bytes.length
decreasing_by
  rw [List.length_drop]
  omega

/-! ## Writes one after the other -/

section

variable {writer : Writer} {first : List UInt8}

/-- What is written behind bytes that were taken whole is received behind them. -/
theorem capacity_receive_of_taken (taken : writer.capacity first.length = first.length)
    (second : List UInt8) (portions : List Nat) :
    writer.capacity (first ++ second).length =
      first.length + (writer.receive first portions).capacity second.length := by
  unfold capacity receive at *
  cases room : writer.room with
  | none => simp
  | some room =>
      rw [room] at taken
      simp only [Option.map_some, List.length_append] at *
      omega

theorem receive_receive_take (taken : writer.capacity first.length = first.length)
    (second : List UInt8) (old new : List Nat) :
    (writer.receive first old).receive
        (second.take ((writer.receive first old).capacity second.length)) new =
      writer.receive ((first ++ second).take (writer.capacity (first ++ second).length)) new := by
  rw [capacity_receive_of_taken taken second old, List.take_length_add_append, receive_receive]

/-- Nothing is received behind bytes that were not taken whole. -/
theorem take_append_of_not_taken (refused : writer.capacity first.length ≠ first.length)
    (second : List UInt8) :
    writer.capacity (first ++ second).length = writer.capacity first.length ∧
      (first ++ second).take (writer.capacity (first ++ second).length) =
        first.take (writer.capacity first.length) := by
  have same : writer.capacity (first ++ second).length = writer.capacity first.length := by
    unfold capacity at *
    cases room : writer.room with
    | none => simp [room] at refused
    | some room =>
        rw [room] at refused
        simp only [List.length_append] at *
        omega
  rw [same]
  exact ⟨rfl, List.take_append_of_le_length (capacity_le writer first.length)⟩

end

/-- Writes pieces one after the other, up to the first that is refused. -/
def writePieces (writer : Writer) : List (List UInt8) → Except IoFault Unit × Writer
  | [] => (.ok (), writer)
  | piece :: rest =>
      match writer.writeAll piece with
      | (.error fault, writer) => (.error fault, writer)
      | (.ok (), writer) => writer.writePieces rest

/-- Pieces are received as if they were written at once. -/
theorem writePieces_eq (writer : Writer) (pieces : List (List UInt8)) :
    ∃ portions,
      writer.writePieces pieces =
        (if writer.capacity pieces.flatten.length = pieces.flatten.length then .ok ()
          else .error writer.refusalFault,
          writer.receive (pieces.flatten.take (writer.capacity pieces.flatten.length))
            portions) := by
  induction pieces generalizing writer with
  | nil =>
      have whole : writer.capacity 0 = 0 := Nat.le_zero.mp (capacity_le writer 0)
      exact ⟨writer.portions, by simp [writePieces, whole, receive]⟩
  | cons piece rest ih =>
      obtain ⟨old, run⟩ := writeAll_eq writer piece
      rw [writePieces, run, List.flatten_cons]
      by_cases taken : writer.capacity piece.length = piece.length
      · have total := capacity_receive_of_taken taken rest.flatten old
        obtain ⟨new, others⟩ := ih (writer.receive piece old)
        refine ⟨new, ?_⟩
        rw [if_pos taken, taken, List.take_length]
        dsimp only
        rw [others, receive_receive_take taken rest.flatten]
        congr 2
        rw [total, List.length_append, Nat.add_left_cancel_iff]
      · have atMost := capacity_le writer piece.length
        obtain ⟨total, ends⟩ := take_append_of_not_taken taken rest.flatten
        refine ⟨old, ?_⟩
        rw [if_neg taken, ends, if_neg]
        rw [total, List.length_append]
        omega

/-! ## Lines -/

/-- Writes lines in a format whose encoder writes the body in pieces. -/
def writeInPieces (writer : Writer) (format : Format) (pieces : List (List UInt8)) :
    Except Failure Unit × Writer :=
  match writer.writePieces pieces with
  | (.error fault, writer) => (.error (bodyFailure format fault), writer)
  | (.ok (), writer) =>
      match writer.writeAll (Utf8.encode format.tail) with
      | (.error fault, writer) => (.error (.io fault), writer)
      | (.ok (), writer) => (writer.flush.mapError .io, writer)

theorem writeLines_eq_writeInPieces (writer : Writer) (format : Format) (lines : List String) :
    writer.writeLines format lines =
      writer.writeInPieces format [Utf8.encode (format.body lines)] := by
  rw [writeLines, writeInPieces, writePieces]
  rcases writer.writeAll (Utf8.encode (format.body lines)) with ⟨result, after⟩
  cases result with
  | error fault => rfl
  | ok => rfl

theorem encode_render (format : Format) (lines : List String) :
    Utf8.encode (format.render lines) =
      Utf8.encode (format.body lines) ++ Utf8.encode format.tail := by
  simp [Format.render, Utf8.encode]

/-- How writing in a format ends, by the lengths of the body and of the whole text. -/
def ending (writer : Writer) (format : Format) (body whole : Nat) : Except Failure Unit :=
  if writer.capacity body = body then
    if writer.capacity whole = whole then writer.flush.mapError .io
    else .error (.io writer.refusalFault)
  else .error (bodyFailure format writer.refusalFault)

/-- A writer receives what it has room for of the body and of what stands behind it. -/
theorem writeInPieces_eq (writer : Writer) (format : Format) (pieces : List (List UInt8))
    {whole : List UInt8} (isWhole : whole = pieces.flatten ++ Utf8.encode format.tail) :
    ∃ portions,
      writer.writeInPieces format pieces =
        (writer.ending format pieces.flatten.length whole.length,
          writer.receive (whole.take (writer.capacity whole.length)) portions) := by
  obtain ⟨old, body⟩ := writePieces_eq writer pieces
  rw [writeInPieces, body, ending, isWhole]
  by_cases taken : writer.capacity pieces.flatten.length = pieces.flatten.length
  · let after := writer.receive pieces.flatten old
    let rest := Utf8.encode format.tail
    have total := capacity_receive_of_taken taken rest old
    have same : writer.capacity (pieces.flatten ++ rest).length = (pieces.flatten ++ rest).length ↔
        after.capacity rest.length = rest.length := by
      rw [total, List.length_append, Nat.add_left_cancel_iff]
    obtain ⟨new, behind⟩ := writeAll_eq after rest
    refine ⟨new, ?_⟩
    rw [if_pos taken, if_pos taken, taken, List.take_length]
    dsimp only
    rw [behind, receive_receive_take taken]
    by_cases room : after.capacity rest.length = rest.length
    · rw [if_pos room, if_pos (same.mpr room)]
      rfl
    · rw [if_neg room, if_neg (mt same.mp room)]
      rfl
  · refine ⟨old, ?_⟩
    rw [if_neg taken, if_neg taken]
    dsimp only
    rw [(take_append_of_not_taken taken (Utf8.encode format.tail)).2]

/-- Lines are written as if their encoder wrote them in any other pieces. -/
theorem writeInPieces_of_body (writer : Writer) (format : Format) {lines : List String}
    {pieces : List (List UInt8)} (body : pieces.flatten = Utf8.encode (format.body lines)) :
    (writer.writeInPieces format pieces).1 = (writer.writeLines format lines).1 ∧
      (writer.writeInPieces format pieces).2.received =
        (writer.writeLines format lines).2.received := by
  obtain ⟨first, inPieces⟩ := writeInPieces_eq writer format pieces rfl
  obtain ⟨second, atOnce⟩ :=
    writeInPieces_eq writer format [Utf8.encode (format.body lines)] rfl
  rw [writeLines_eq_writeInPieces, inPieces, atOnce, List.flatten_singleton, body]
  exact ⟨rfl, rfl⟩

theorem writeLines_eq (writer : Writer) (format : Format) (lines : List String) :
    (writer.writeLines format lines).1 =
        writer.ending format (Utf8.encode (format.body lines)).length
          (Utf8.encode (format.render lines)).length ∧
      (writer.writeLines format lines).2.received =
        writer.received ++ (Utf8.encode (format.render lines)).take
          (writer.capacity (Utf8.encode (format.render lines)).length) := by
  have isWhole : Utf8.encode (format.render lines) =
      [Utf8.encode (format.body lines)].flatten ++ Utf8.encode format.tail := by
    rw [encode_render, List.flatten_singleton]
  obtain ⟨portions, run⟩ := writeInPieces_eq writer format [Utf8.encode (format.body lines)] isWhole
  rw [writeLines_eq_writeInPieces, run, List.flatten_singleton]
  exact ⟨rfl, rfl⟩

/-- A writer without a limit receives the whole text of the lines, and only passing it
on can fail. -/
theorem writeLines_of_unlimited {writer : Writer} (unlimited : writer.room = none)
    (format : Format) (lines : List String) :
    (writer.writeLines format lines).1 = writer.flush.mapError .io ∧
      (writer.writeLines format lines).2.received =
        writer.received ++ Utf8.encode (format.render lines) := by
  have all (offered : Nat) : writer.capacity offered = offered := by
    rw [capacity, unlimited]
  obtain ⟨result, received⟩ := writeLines_eq writer format lines
  rw [result, received, ending, all, all, if_pos rfl, if_pos rfl, List.take_length]
  exact ⟨rfl, rfl⟩

end DomainRules.Writer
