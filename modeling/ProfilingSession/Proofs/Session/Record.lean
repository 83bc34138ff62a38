import ProfilingSession.Proofs.Document.JsonLines
import ProfilingSession.Proofs.Session.RunTime
import ProfilingSession.Proofs.Specification.Kept

/-!
# The record of a session

The record of a report is an object with a line for each field, which `Report.record_eq` and
`Report.forall₂_isFieldOf` say of its text. The keys differ, whether there is a phase or not, so
that the record is kept as it is read, with `Report.entries` and the run time for its entries; and
`Outcome.ofDocument?` finds in them everything else that was reported. Codes and signals have 32
bits with sign, the id of a channel 32 without.
-/

namespace ProfilingSession

open Document.Json (IsBlank IsFieldOf IsObjectText IsPlain IsScalarText IsValueText Reads
  isObjectText_linesText isScalarText_quoted isScalarText_toString linesText)

/-- An end whose code and signal fit into 32 bits with sign. -/
def Exit.InRange (exit : Exit) : Prop :=
  ∀ n : Int, exit.code = some n ∨ exit.signal = some n → -2 ^ 31 ≤ n ∧ n < 2 ^ 31

namespace Report

/-- A report whose numbers fit into the words that hold them. -/
structure InRange (report : Report) : Prop where
  channel : report.channel < 2 ^ 32
  producer : ∀ exit ∈ report.producer, exit.InRange
  consumer : ∀ exit ∈ report.consumer, exit.InRange
  runTime : report.runTime.InRange

/-- What a report tells besides the run time. -/
structure Outcome where
  channel : Nat
  profiler : Profiler
  state : SessionState
  producer : Option Exit
  consumer : Option Exit
  deriving DecidableEq

def outcome (report : Report) : Outcome :=
  ⟨report.channel, report.profiler, report.state, report.producer, report.consumer⟩

/-! Reading a record -/

def text? : Document → Option String
  | .text content => some content
  | _ => none

def natural? : Document → Option Nat
  | .int (.ofNat n) => some n
  | _ => none

def number? : Document → Option (Option Int)
  | .null => some none
  | .int n => some (some n)
  | _ => none

def exit? : Document → Option (Option Exit)
  | .null => some none
  | .mapping entries => do
    let code ← number? (← Document.lookup "code" entries)
    let signal ← number? (← Document.lookup "signal" entries)
    return some ⟨code, signal⟩
  | _ => none

def states : List SessionState :=
  [.succeeded, .timedOut .global, .timedOut .drain, .orderViolation, .failed]

/-- The phase in which a deadline passed. -/
def phaseName : SessionState → Option String
  | .timedOut deadline => some deadline.recordName
  | _ => none

/-- The outcome that a record tells, each field being found by its key. -/
def Outcome.ofDocument? (document : Document) : Option Outcome := do
  let channel ← natural? (← document.get? "channel")
  let name ← text? (← document.get? "module")
  let profiler ← Profiler.all.find? (·.recordName == name)
  let word ← text? (← document.get? "state")
  let phase := (document.get? "phase").bind text?
  let state ← states.find? fun state => state.recordName == word && phaseName state == phase
  let producer ← exit? (← document.get? "producer")
  let consumer ← exit? (← document.get? "consumer")
  return ⟨channel, profiler, state, producer, consumer⟩

/-! The document of a record -/

def numberDocument : Option Int → Document
  | none => .null
  | some n => .int n

def exitDocument : Option Exit → Document
  | none => .null
  | some exit =>
    .mapping [("code", numberDocument exit.code), ("signal", numberDocument exit.signal)]

/-- The entries of a record before the run time. -/
def entries (report : Report) : List (String × Document) :=
  [("channel", .int report.channel), ("module", .text report.profiler.recordName),
    ("state", .text report.state.recordName)] ++
  (match report.state with
    | .timedOut deadline => [("phase", .text deadline.recordName)]
    | _ => []) ++
  [("producer", exitDocument report.producer), ("consumer", exitDocument report.consumer)]

variable {report : Report}

theorem number?_numberDocument (n : Option Int) : number? (numberDocument n) = some n := by
  cases n <;> rfl

theorem exit?_exitDocument (exit : Option Exit) : exit? (exitDocument exit) = some exit := by
  cases exit with
  | none => rfl
  | some exit =>
    simp [exitDocument, exit?, Document.lookup, number?_numberDocument]

theorem find?_recordName (profiler : Profiler) :
    Profiler.all.find? (·.recordName == profiler.recordName) = some profiler := by
  cases profiler <;> decide

theorem find?_state (state : SessionState) :
    states.find? (fun other =>
      other.recordName == state.recordName && phaseName other == phaseName state) = some state := by
  rcases state with _ | (_ | _) | _ | _ <;> decide

/-- From the entries of a record its outcome is found again. -/
theorem ofDocument?_entries (report : Report) (runTime : Document) :
    Outcome.ofDocument? (.mapping (report.entries ++ [("run_time_secs", runTime)])) =
      some report.outcome := by
  generalize whole : Document.mapping (report.entries ++ [("run_time_secs", runTime)]) = document
  have channel : document.get? "channel" = some (.int report.channel) := by
    simp [← whole, entries, Document.get?, Document.lookup]
  have name : document.get? "module" = some (.text report.profiler.recordName) := by
    simp [← whole, entries, Document.get?, Document.lookup]
  have word : document.get? "state" = some (.text report.state.recordName) := by
    simp [← whole, entries, Document.get?, Document.lookup]
  have phase : (document.get? "phase").bind text? = phaseName report.state := by
    cases state : report.state <;>
      simp [← whole, entries, state, Document.get?, Document.lookup, text?, phaseName]
  have producer : document.get? "producer" = some (exitDocument report.producer) := by
    cases state : report.state <;>
      simp [← whole, entries, state, Document.get?, Document.lookup]
  have consumer : document.get? "consumer" = some (exitDocument report.consumer) := by
    cases state : report.state <;>
      simp [← whole, entries, state, Document.get?, Document.lookup]
  have number : natural? (.int report.channel) = some report.channel := rfl
  simp [Outcome.ofDocument?, channel, name, word, phase, producer, consumer, number, text?,
    find?_recordName, find?_state, exit?_exitDocument, outcome]

/-! The text of a record -/

/-- A number of 32 bits, with sign or without. -/
theorem isScalarText_word {n : Int} (least : -2 ^ 31 ≤ n) (greatest : n < 2 ^ 32) :
    IsScalarText (.int n) (toString n).toList := by
  have word : (Document.Json.greatestWord : Int) = 2 ^ 64 - 1 := by decide
  exact isScalarText_toString (by omega) (by omega)

theorem isScalarText_jsonNumber {n : Option Int} (fits : ∀ m ∈ n, -2 ^ 31 ≤ m ∧ m < 2 ^ 31) :
    IsScalarText (numberDocument n) (Exit.jsonNumber n).toList := by
  cases n with
  | none => exact .null
  | some m =>
    obtain ⟨least, greatest⟩ := fits m rfl
    exact isScalarText_word least (greatest.trans (by decide))

-- The pieces of the text are cut at the ends of `linesText`, and then only put in its order.
theorem exitValue_eq (exit : Exit) :
    exitValue (some exit) = "\x7b" ++ linesText "    " "  "
      [("code", Exit.jsonNumber exit.code)] ("signal", Exit.jsonNumber exit.signal) := by
  calc exitValue (some exit)
      = ("\x7b" ++ "\n" ++ "    " ++ "\"" ++ "code" ++ "\": ") ++ Exit.jsonNumber exit.code ++
          (",\n" ++ "    " ++ "\"" ++ "signal" ++ "\": ") ++ Exit.jsonNumber exit.signal ++
          ("\n" ++ "  " ++ "\x7d") := rfl
    _ = _ := by
      simp only [linesText, List.map_cons, List.map_nil, String.join_cons, String.join_nil,
        String.append_empty, String.append_assoc]

theorem record_eq (report : Report) :
    report.record = "\x7b" ++
      linesText "  " "" report.fields ("run_time_secs", report.runTimeText) ++ "\n" := by
  calc report.record
      = ("\x7b" ++ "\n") ++ String.join (report.fields.map fun field =>
            ("  " ++ "\"") ++ field.1 ++ "\": " ++ field.2 ++ ",\n") ++
          ("  " ++ "\"" ++ "run_time_secs" ++ "\": ") ++ report.runTimeText ++
          ("\n" ++ "" ++ "\x7d" ++ "\n") := rfl
    _ = _ := by simp only [linesText, String.append_assoc]

theorem isValueText_exitValue {exit : Option Exit} (inRange : ∀ e ∈ exit, e.InRange) :
    IsValueText (exitDocument exit) (exitValue exit).toList := by
  cases exit with
  | none => exact .scalar .null
  | some exit =>
    have fits := inRange exit rfl
    have code := isScalarText_jsonNumber fun n code => fits n (.inl code)
    have signal := isScalarText_jsonNumber fun n signal => fits n (.inr signal)
    rw [exitValue_eq]
    exact .mapping (isObjectText_linesText (by decide) (by decide)
      (.cons (.field (by decide) code) .nil) (.field (by decide) signal))

/-! The fields -/

theorem isPlain_profiler (profiler : Profiler) :
    profiler.recordName.toList.all fun c => IsPlain c := by
  cases profiler <;> decide

theorem isPlain_deadline (deadline : Deadline) :
    deadline.recordName.toList.all fun c => IsPlain c := by
  cases deadline <;> decide

theorem isPlain_state (state : SessionState) :
    state.recordName.toList.all fun c => IsPlain c := by
  rcases state with _ | (_ | _) | _ | _ <;> decide

theorem isFieldOf_phase (state : SessionState) :
    List.Forall₂ (IsFieldOf IsValueText)
      (match state with
        | .timedOut deadline => [("phase", .text deadline.recordName)]
        | _ => [])
      (match state with
        | .timedOut deadline => [("phase", "\"" ++ deadline.recordName ++ "\"")]
        | _ => []) := by
  cases state with
  | timedOut deadline =>
    have phase := isScalarText_quoted (isPlain_deadline deadline)
    exact .cons (.field (by decide) (.scalar phase)) .nil
  | _ => exact .nil

theorem forall₂_isFieldOf (inRange : report.InRange) :
    List.Forall₂ (IsFieldOf IsValueText) report.entries report.fields := by
  have channel : IsScalarText (.int report.channel) (toString (report.channel : Int)).toList := by
    have fits := inRange.channel
    exact isScalarText_word (by omega) (by omega)
  have profiler := isScalarText_quoted (isPlain_profiler report.profiler)
  have state := isScalarText_quoted (isPlain_state report.state)
  have producer := isValueText_exitValue inRange.producer
  have consumer := isValueText_exitValue inRange.consumer
  refine List.rel_append (List.rel_append ?_ (isFieldOf_phase report.state)) ?_
  · exact .cons (.field (by decide) (.scalar channel))
      (.cons (.field (by decide) (.scalar profiler))
        (.cons (.field (by decide) (.scalar state)) .nil))
  · exact .cons (.field (by decide) producer) (.cons (.field (by decide) consumer) .nil)

/-- The record is an object, with a line of its own for each field, and the end of a line. -/
theorem exists_isObjectText (inRange : report.InRange) :
    ∃ object x, report.record = object ++ "\n" ∧
      IsObjectText IsValueText (report.entries ++ [("run_time_secs", .float x)]) object.toList := by
  have number := isNumberText_runTimeText inRange.runTime
  obtain ⟨x, read, -⟩ := number.exists_read
  have value : IsValueText (.float x) report.runTimeText.toList := .scalar (.number number read)
  exact ⟨_, x, record_eq report, isObjectText_linesText (by decide) (by decide)
    (forall₂_isFieldOf inRange) (.field (by decide) value)⟩

theorem repeatedKey_exitDocument (exit : Option Exit) : (exitDocument exit).repeatedKey = none := by
  have number (n : Option Int) : (numberDocument n).repeatedKey = none := by cases n <;> rfl
  cases exit with
  | none => rfl
  | some exit =>
    simp [exitDocument, Document.repeatedKey, Document.repeatedInEntries, number]

/-- The keys of a record differ, and so do those of each end in it. -/
theorem unambiguous_entries (report : Report) (x : Decimal.Binary64) :
    Document.Unambiguous (.mapping (report.entries ++ [("run_time_secs", .float x)])) := by
  have producer := repeatedKey_exitDocument report.producer
  have consumer := repeatedKey_exitDocument report.consumer
  rw [← Document.repeatedKey_eq_none_iff]
  cases state : report.state <;>
    simp [entries, state, producer, consumer, Document.repeatedKey, Document.repeatedInEntries]

theorem parse_record {object : String} {found : List (String × Document)}
    (whole : report.record = object ++ "\n")
    (written : IsObjectText IsValueText found object.toList)
    (unambiguous : Document.Unambiguous (.mapping found)) :
    Specification.parse .json report.record = .ok (.mapping found) := by
  have object_reads : Reads 128 (.mapping found) object.toList :=
    Document.Json.reads_object (by decide)
      (fun _ _ _ value => IsValueText.reads value (by decide)) written
  have read : Document.Json.read report.record = .ok (.mapping found) :=
    Document.Json.read_of_reads object_reads (List.forall_mem_nil _)
      (by decide : IsBlank ['\n']) (by rw [whole, String.toList_append, List.nil_append]; rfl)
  have kept := Specification.parse_eq_ok (Document.Format.written_json_eq_ok_iff.mpr read)
    unambiguous
  rwa [(Document.Json.finite_of_read read).finite_eq] at kept

/-- The record of a report is an object in which no key repeats, and the end of a line. It is kept
as that object, and from it everything that is reported besides the run time is found again; so
reports with the same record differ in the run time only. -/
theorem exists_object_record (inRange : report.InRange) :
    ∃ object found, report.record = object ++ "\n" ∧
      IsObjectText IsValueText found object.toList ∧
      Document.Unambiguous (.mapping found) ∧
      Specification.parse .json report.record = .ok (.mapping found) ∧
      Outcome.ofDocument? (.mapping found) = some report.outcome ∧
      ∀ other : Report, other.InRange → other.record = report.record →
        other.outcome = report.outcome := by
  obtain ⟨object, x, whole, written⟩ := exists_isObjectText inRange
  have kept := parse_record whole written (unambiguous_entries report x)
  refine ⟨object, _, whole, written, unambiguous_entries report x, kept,
    ofDocument?_entries report _, fun other otherInRange same => ?_⟩
  obtain ⟨_, y, whole', written'⟩ := exists_isObjectText otherInRange
  have kept' := parse_record whole' written' (unambiguous_entries other y)
  rw [same, kept] at kept'
  have outcome := ofDocument?_entries other (.float y)
  rw [← Except.ok.inj kept', ofDocument?_entries] at outcome
  exact (Option.some.inj outcome).symm

/-- A consumer that was killed for not draining, after a producer with a negative code. -/
def late : Report where
  channel := 4294967295
  profiler := .contextDependence
  state := .timedOut .drain
  producer := some ⟨some (-2147483648), none⟩
  consumer := some ⟨none, some 9⟩
  runTime := .ofMilliseconds 1500

example : late.record = "\x7b
  \"channel\": 4294967295,
  \"module\": \"dep-context\",
  \"state\": \"timed_out\",
  \"phase\": \"drain\",
  \"producer\": \x7b
    \"code\": -2147483648,
    \"signal\": null
  \x7d,
  \"consumer\": \x7b
    \"code\": null,
    \"signal\": 9
  \x7d,
  \"run_time_secs\": 1.5
\x7d
" := by decide +kernel

theorem exists_object_record_of_late :
    late.InRange ∧ ∃ object found, late.record = object ++ "\n" ∧
      IsObjectText IsValueText found object.toList ∧
      Document.Unambiguous (.mapping found) ∧
      Specification.parse .json late.record = .ok (.mapping found) ∧
      Outcome.ofDocument? (.mapping found) =
        some ⟨4294967295, .contextDependence, .timedOut .drain,
          some ⟨some (-2147483648), none⟩, some ⟨none, some 9⟩⟩ ∧
      ∀ other : Report, other.InRange → other.record = late.record →
        other.outcome = late.outcome := by
  have inRange : late.InRange := by
    refine ⟨by decide, ?_, ?_, (by decide : late.runTime.seconds < 2 ^ 64)⟩
    · rintro _ ⟨⟩ n (code | signal)
      · cases code
        decide
      · cases signal
    · rintro _ ⟨⟩ n (code | signal)
      · cases code
      · cases signal
        decide
  exact ⟨inRange, exists_object_record inRange⟩

end Report

end ProfilingSession
