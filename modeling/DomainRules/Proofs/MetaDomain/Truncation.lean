import DomainRules.Proofs.MetaDomain.Framing

/-!
# Exports to a writer that runs out of room

A writer may take a limited number of bytes, in any portions, and then refuse the rest;
it may also fail to pass on what it has taken.  The main statement is that an export to
such a writer succeeds only if nothing is lost, that what the writer has received is
always the front of the whole text, and that it has received nothing of rules that
cannot be translated.
-/

namespace DomainRules.MetaDomain

open Rule (Item RuleSet)

/-- The failure of an export whose text is longer than a writer has room for.  An
encoder reports it in its own way, except for what is not written by the encoder: the
line end behind a JSON document. -/
def overflow (format : Format) (fault : IoFault) (limit length : Nat) : Failure :=
  match format with
  | .text => .io fault
  | .yaml => .encode fault.message
  | .json => if limit + 1 < length then .encode fault.message else .io fault

theorem length_encode_render (format : Format) (lines : List String) :
    (Utf8.encode (format.render lines)).length =
      (Utf8.encode (format.body lines)).length + if format = .json then 1 else 0 := by
  rw [Writer.encode_render, List.length_append]
  cases format with
  | yaml => rfl
  | json => rfl
  | text => rfl

/-- The result of writing lines to a writer with a limit. -/
theorem result_writeLines_of_limited {writer : Writer} {limit : Nat}
    (limited : writer.room = some limit) (format : Format) (lines : List String) :
    let length := (Utf8.encode (format.render lines)).length
    (writer.writeLines format lines).1 =
      if length ≤ limit then writer.flush.mapError .io
      else .error (overflow format writer.refusalFault limit length) := by
  have fitting (offered : Nat) : writer.capacity offered = offered ↔ offered ≤ limit := by
    simp only [Writer.capacity, limited]
    omega
  intro length
  rw [(Writer.writeLines_eq writer format lines).1, Writer.ending]
  simp only [fitting]
  by_cases fits : length ≤ limit
  · have bodyFits : (Utf8.encode (format.body lines)).length ≤ limit := by
      have parts := length_encode_render format lines
      omega
    rw [if_pos bodyFits, if_pos fits, if_pos fits]
  · rw [if_neg fits, if_neg fits]
    cases format with
    | text =>
        have parts : length = (Utf8.encode (Format.text.body lines)).length :=
          length_encode_render .text lines
        have bodyFails : ¬ (Utf8.encode (Format.text.body lines)).length ≤ limit := by omega
        rw [if_neg bodyFails]
        rfl
    | yaml =>
        have parts : length = (Utf8.encode (Format.yaml.body lines)).length :=
          length_encode_render .yaml lines
        have bodyFails : ¬ (Utf8.encode (Format.yaml.body lines)).length ≤ limit := by omega
        rw [if_neg bodyFails]
        rfl
    | json =>
        -- Where the body fits and the whole does not, only the line end is refused.
        have bodyFits : (Utf8.encode (Format.json.body lines)).length ≤ limit ↔
            ¬ limit + 1 < length := by
          have parts : length = (Utf8.encode (Format.json.body lines)).length + 1 :=
            length_encode_render .json lines
          omega
        by_cases short : limit + 1 < length
        · rw [if_neg (mt bodyFits.mp (not_not_intro short)), overflow, if_pos short]
          rfl
        · rw [if_pos (bodyFits.mpr short), overflow, if_neg short]

/-- An export to a writer that takes a limited number of bytes.  Nothing is received of
rules that cannot be translated; of others, the front of the whole text is, as far as
there is room, and the export succeeds exactly if that is all of it and is passed on.
It makes no difference in what pieces the encoder writes the body. -/
theorem exportTo_limited (policy : Policy) (rules : RuleSet) (format : Format) (limit : Nat)
    (portions : List Nat) (refusal : Refusal) (flushFails : Bool) :
    let writer : Writer := ⟨[], some limit, portions, refusal, flushFails⟩
    let run := exportTo writer format policy rules
    (∀ failure, (lines policy rules).result = .error failure →
        run.1.result = .error failure ∧ run.2.received = []) ∧
      ∀ exported, (lines policy rules).result = .ok exported →
        let whole := Utf8.encode (format.render exported)
        run.2.received = whole.take (min limit whole.length) ∧
          (run.1.result = .ok () ↔ whole.length ≤ limit ∧ flushFails = false) ∧
          (whole.length ≤ limit → flushFails = true → run.1.result = .error (.io .flushFailed)) ∧
          (limit < whole.length →
            run.1.result = .error (overflow format writer.refusalFault limit whole.length)) ∧
          ∀ pieces, pieces.flatten = Utf8.encode (format.body exported) →
            let inPieces := writer.writeInPieces format pieces
            inPieces.1 = run.1.result ∧ inPieces.2.received = run.2.received := by
  intro writer run
  constructor
  · intro failure failed
    simp only [run, exportTo_of_error failed]
    exact ⟨trivial, rfl⟩
  · intro exported success whole
    have limited : writer.room = some limit := rfl
    have result := result_writeLines_of_limited limited format exported
    have received := (Writer.writeLines_eq writer format exported).2
    have passesOn : writer.flush = if flushFails then .error .flushFailed else .ok () := rfl
    simp only [run, exportTo_of_ok success, result, passesOn]
    refine ⟨?_, ?_, ?_, ?_, ?_⟩
    · rw [received, Nat.min_comm]
      exact List.nil_append _
    · split
      · next fits => cases flushFails <;> simp [fits, Except.mapError, whole]
      · next short => simp [short, whole]
    · intro fits fails
      rw [if_pos fits, if_pos fails]
      rfl
    · intro short
      rw [if_neg (Nat.not_le.mpr short)]
    · intro pieces body
      rw [← passesOn, ← result]
      exact Writer.writeInPieces_of_body writer format body

/-- A rule set whose JSON document has 43 bytes, the line end among them. -/
def twoRules : RuleSet :=
  ⟨[⟨.plain, [⟨"domain", ["é"]⟩, ⟨"geoip", ["XX"]⟩], by decide⟩,
    ⟨.plain, [⟨"domain_suffix", ["b"]⟩], by decide⟩]⟩

/-- One byte too few loses the line end, two lose a part of what the encoder writes. -/
theorem twoRules_truncated :
    (lines .lenient twoRules).result = .ok ["é", "+.b"] ∧
      (Utf8.encode (Format.json.render ["é", "+.b"])).length = 43 ∧
      (exportTo ⟨[], some 42, [0, 4], .silence, false⟩ .json .lenient twoRules).1.result =
        .error (.io .shortWrite) ∧
      (exportTo ⟨[], some 41, [0, 4], .fault, true⟩ .json .lenient twoRules).1.result =
        .error (.encode "sink is full") ∧
      (exportTo ⟨[], some 41, [0, 4], .fault, true⟩ .json .lenient twoRules).2.received =
        (Utf8.encode (Format.json.render ["é", "+.b"])).take 41 := by
  have success : (lines .lenient twoRules).result = .ok ["é", "+.b"] := by decide +kernel
  have length : (Utf8.encode (Format.json.render ["é", "+.b"])).length = 43 := by decide +kernel
  obtain ⟨_, _, _, lineEnd, _⟩ :=
    (exportTo_limited .lenient twoRules .json 42 [0, 4] .silence false).2 _ success
  obtain ⟨received, _, _, inside, _⟩ :=
    (exportTo_limited .lenient twoRules .json 41 [0, 4] .fault true).2 _ success
  rw [length] at lineEnd received inside
  exact ⟨success, length, lineEnd (by decide), inside (by decide), received⟩

end DomainRules.MetaDomain
