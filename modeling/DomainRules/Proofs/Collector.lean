import Mathlib.Data.List.DropRight
import DomainRules.Policy
import DomainRules.Proofs.Diagnostic

/-!
# Histories of a collector

A collector is written to by everything that emits remarks, directly or by way of a policy,
and from time to time its remarks are taken away.  A call moves remarks from the collector
to the caller, or adds those that it records, and does nothing else.  The main statement
says what this comes to in any history: what has been taken and what is still held are,
together, what the calls have recorded, each remark once and all of them in their order.
-/

namespace DomainRules.Collector

/-- What is done with a collector. -/
inductive Call where
  /-- A degradable gap is met under a policy. -/
  | degrade (policy : Policy) (side : Side) (reason : String)
  /-- A structural gap is met, in which no policy has a say. -/
  | refuse (reason : String)
  | warn (message : String)
  | error (message : String)
  | emit (diagnostic : Diagnostic)
  | take
deriving DecidableEq

/-- What a call returns. -/
inductive Answer where
  | degraded (result : Except Failure Unit)
  | refused (failure : Failure)
  | emitted
  | taken (diagnostics : List Diagnostic)

/-- The remarks that a caller has got. -/
def Answer.remarks : Answer → List Diagnostic
  | .taken diagnostics => diagnostics
  | _ => []

/-- The remarks that a call records. -/
def Call.records : Call → List Diagnostic
  | .degrade .lenient _ reason => [⟨.warning, reason⟩]
  | .degrade .strict _ _ => []
  | .refuse _ => []
  | .warn message => [⟨.warning, message⟩]
  | .error message => [⟨.error, message⟩]
  | .emit diagnostic => [diagnostic]
  | .take => []

/-- The answer to a call, and the collector after it. -/
def respond (collector : Collector) : Call → Answer × Collector
  | .degrade policy side reason =>
      let degraded := collector.record (policy.degrade side reason)
      (.degraded degraded.1, degraded.2)
  | .refuse reason => (.refused (.structural reason), collector)
  | .warn message => (.emitted, collector.emit (.warning message))
  | .error message => (.emitted, collector.emit (.error message))
  | .emit diagnostic => (.emitted, collector.emit diagnostic)
  | .take => (.taken collector.take.1, collector.take.2)

/-- The answers to calls that are made one after the other. -/
def answers (collector : Collector) : List Call → List Answer
  | [] => []
  | call :: calls => (collector.respond call).1 :: answers (collector.respond call).2 calls

/-- The collector after calls that are made one after the other. -/
def leftBy (collector : Collector) (calls : List Call) : Collector :=
  calls.foldl (fun collector call => (collector.respond call).2) collector

/-- The collector that a history leaves of a new one. -/
def ofHistory (history : List Call) : Collector :=
  leftBy {} history

/-- What has been recorded since the remarks were taken last. -/
def recordedSince (history : List Call) : List Diagnostic :=
  (history.rtakeWhile (· ≠ .take)).flatMap Call.records

/-- What a history of calls comes to, whatever is done next. -/
structure Accounts (history : List Call) : Prop where
  /-- What has been taken and what is still held is what has been recorded. -/
  complete : (answers {} history).flatMap Answer.remarks ++ (ofHistory history).collected =
    history.flatMap Call.records
  /-- A lenient run goes on after a warning. -/
  warns : ∀ side reason, (ofHistory history).respond (.degrade .lenient side reason) =
    (.degraded (.ok ()), ⟨(ofHistory history).collected ++ [⟨.warning, reason⟩]⟩)
  /-- A strict run fails without a remark. -/
  fails : ∀ side reason, (ofHistory history).respond (.degrade .strict side reason) =
    (.degraded (.error (.capability ⟨side, .degradable, reason⟩)), ofHistory history)
  /-- A structural gap is a failure without a remark. -/
  refuses : ∀ reason, (ofHistory history).respond (.refuse reason) =
    (.refused (.capability ⟨.output, .structural, reason⟩), ofHistory history)
  /-- The remarks that are taken are those since the last time. -/
  takes : (ofHistory history).respond .take = (.taken (recordedSince history), {})
  size : (ofHistory history).size = (recordedSince history).length
  isEmpty : (ofHistory history).isEmpty = true ↔ recordedSince history = []
  lines : (ofHistory history).lines =
    (recordedSince history).map (Diagnostic.shownLine false)

/-! ## One call -/

/-- What a call gives away and what it leaves is what was there and what it records. -/
theorem remarks_append_collected (collector : Collector) (call : Call) :
    (collector.respond call).1.remarks ++ (collector.respond call).2.collected =
      collector.collected ++ call.records := by
  cases call with
  | degrade policy side reason =>
      cases policy with
      | lenient => rfl
      | strict => exact (List.append_nil _).symm
  | refuse reason => exact (List.append_nil _).symm
  | warn message | error message | emit diagnostic => rfl
  | take => rfl

/-- A call that takes nothing away leaves what was there. -/
theorem collected_respond (collector : Collector) {call : Call} (keeps : call ≠ .take) :
    (collector.respond call).2.collected = collector.collected ++ call.records := by
  rw [← remarks_append_collected]
  cases call with
  | take => exact absurd rfl keeps
  | degrade | refuse | warn | error | emit => rfl

/-! ## Histories -/

theorem taken_append_collected (collector : Collector) (history : List Call) :
    (collector.answers history).flatMap Answer.remarks ++ (collector.leftBy history).collected =
      collector.collected ++ history.flatMap Call.records := by
  induction history generalizing collector with
  | nil => exact (List.append_nil _).symm
  | cons call history ih =>
      have later := ih (collector.respond call).2
      calc ((collector.respond call).1 ::
              (collector.respond call).2.answers history).flatMap Answer.remarks ++
            ((collector.respond call).2.leftBy history).collected
          = (collector.respond call).1.remarks ++
              ((collector.respond call).2.collected ++ history.flatMap Call.records) := by
            rw [List.flatMap_cons, List.append_assoc, later]
        _ = collector.collected ++ (call :: history).flatMap Call.records := by
            rw [← List.append_assoc, remarks_append_collected, List.append_assoc,
              List.flatMap_cons]

theorem ofHistory_concat (history : List Call) (call : Call) :
    ofHistory (history ++ [call]) = ((ofHistory history).respond call).2 :=
  List.foldl_append

/-- A collector holds what has been recorded since its remarks were taken last. -/
theorem collected_ofHistory (history : List Call) :
    (ofHistory history).collected = recordedSince history := by
  induction history using List.reverseRecOn with
  | nil => rfl
  | append_singleton history call ih =>
      rw [ofHistory_concat, recordedSince]
      by_cases takes : call = .take
      · rw [takes, List.rtakeWhile_concat, if_neg (by decide)]
        rfl
      · rw [List.rtakeWhile_concat, if_pos (decide_eq_true takes), collected_respond _ takes, ih,
          List.flatMap_append, List.flatMap_singleton]
        rfl

/-- In any history of a collector no remark is lost and none is doubled. -/
theorem history_accounted (history : List Call) : Accounts history where
  complete := taken_append_collected {} history
  warns _ _ := rfl
  fails _ _ := rfl
  refuses _ := rfl
  takes := by
    rw [← collected_ofHistory]
    rfl
  size := congrArg List.length (collected_ofHistory history)
  isEmpty := by
    rw [← collected_ofHistory]
    exact List.isEmpty_iff
  lines := by
    rw [← collected_ofHistory]
    exact List.map_congr_left fun remark _ => remark.line_eq_shownLine

end DomainRules.Collector
