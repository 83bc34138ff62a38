import ProfilingSession.CommandLine.Execution
import ProfilingSession.Proofs.Text.Lines
import ProfilingSession.Proofs.Text.Occurrence

/-!
# The phrase of wrong usage in messages

Wrong usage is known by a phrase in the outermost message of a fault. The messages of other faults do
not have it by themselves: all that is fixed in them has no part in an occurrence of it (`BeginsNone`,
`EndsNone`), and numbers, times and the words of the system lack it, too. But most messages quote a
path, and a message that does has the phrase just if the path has it.
-/

namespace ProfilingSession

open FileTree (Cause Path systemMessage)
open Text (NoStart NoEnd lower)

def usagePhrase : List Char := "missing required argument".toList

/-- A text has the phrase of wrong usage in it, whatever the case of its letters. -/
def SaysMissing (s : String) : Prop :=
  usagePhrase <:+: (lower s).toList

/-- A text in which no occurrence of the phrase begins, whatever comes after it. -/
def BeginsNone (s : String) : Prop :=
  NoStart usagePhrase (lower s).toList

/-- A text in which no occurrence of the phrase ends, whatever comes before it. -/
def EndsNone (s : String) : Prop :=
  NoEnd usagePhrase (lower s).toList

variable {s t mid : String} {c : Char} {l : List Char}

theorem toList_lower_ofList : (lower (.ofList l)).toList = l.map Char.toLower := by
  simp [lower]

theorem BeginsNone.ofList (h : NoStart usagePhrase (l.map Char.toLower)) : BeginsNone (.ofList l) := by
  rwa [BeginsNone, toList_lower_ofList]

theorem EndsNone.ofList (h : NoEnd usagePhrase (l.map Char.toLower)) : EndsNone (.ofList l) := by
  rwa [EndsNone, toList_lower_ofList]

theorem BeginsNone.append (h : BeginsNone s) (h' : BeginsNone t) : BeginsNone (s ++ t) := by
  rw [BeginsNone, Text.toList_lower_append]
  exact NoStart.append h h'

theorem saysMissing_after (h : BeginsNone s) : SaysMissing (s ++ t) ↔ SaysMissing t := by
  rw [SaysMissing, Text.toList_lower_append, Text.infix_append_left_iff h, SaysMissing]

theorem saysMissing_before (h : EndsNone t) : SaysMissing (s ++ t) ↔ SaysMissing s := by
  rw [SaysMissing, Text.toList_lower_append, Text.infix_append_right_iff h, SaysMissing]

theorem saysMissing_within {before after : String} (h : BeginsNone before) (h' : EndsNone after) :
    SaysMissing (before ++ s ++ after) ↔ SaysMissing s := by
  rw [saysMissing_before h', saysMissing_after h]

/-- A text between two others keeps them apart if it has a character that the phrase does not have. -/
theorem saysMissing_beside (begins : BeginsNone mid) (ends : EndsNone mid)
    (mem : c ∈ (lower mid).toList) (absent : c ∉ usagePhrase) :
    SaysMissing (s ++ mid ++ t) ↔ SaysMissing s ∨ SaysMissing t := by
  obtain ⟨first, second, shape⟩ := List.append_of_mem mem
  rw [BeginsNone, shape] at begins
  rw [EndsNone, shape, NoEnd, List.reverse_append] at ends
  have ends' : NoEnd usagePhrase first := ends.of_append
  have begins' : NoStart usagePhrase ([c] ++ second) := begins.of_append
  rw [SaysMissing, Text.toList_lower_append, Text.toList_lower_append, shape, List.append_assoc,
    List.append_assoc, List.cons_append, ← List.append_assoc, Text.infix_append_cons_iff absent,
    Text.infix_append_right_iff ends', Text.infix_append_left_iff begins'.of_append]
  rfl

/-! Texts without the phrase -/

/-- A text without the rarest letter of the phrase. -/
def Lacks (s : String) : Prop :=
  'q' ∉ (lower s).toList

theorem Lacks.ofList (h : 'q' ∉ l.map Char.toLower) : Lacks (.ofList l) := by
  rwa [Lacks, toList_lower_ofList]

theorem Lacks.append (h : Lacks s) (h' : Lacks t) : Lacks (s ++ t) := by
  rw [Lacks, Text.toList_lower_append, List.mem_append]
  exact not_or.mpr ⟨h, h'⟩

theorem Lacks.not_saysMissing (h : Lacks s) : ¬ SaysMissing s := by
  have mem : 'q' ∈ usagePhrase := by decide
  exact fun found => h (found.subset mem)

theorem toLower_ne_of_isDigit (digit : c.isDigit = true) : c.toLower ≠ 'q' := by
  simp only [Char.isDigit, Bool.and_eq_true, decide_eq_true_eq] at digit
  unfold Char.toLower
  split
  · next upper => exact absurd (UInt32.le_trans upper.1 digit.2) (by decide)
  · rintro rfl
    exact absurd digit.2 (by decide)

theorem lacks_toString (n : Nat) : Lacks (toString n) := by
  simp only [Lacks, lower, String.toList_ofList, List.mem_map, not_exists, not_and]
  exact fun c mem => toLower_ne_of_isDigit (Text.isDigit_of_mem_toString mem)

theorem isDigit_of_mem_padded {width n : Nat} (mem : c ∈ (Decimal.padded width n).toList) :
    c.isDigit = true := by
  rw [Decimal.padded, String.toList_ofList, List.mem_append] at mem
  rcases mem with zero | digit
  · rw [List.eq_of_mem_replicate zero]
    rfl
  · exact Nat.isDigit_of_mem_toDigits (by decide) (by decide) digit

theorem Duration.lacks_inUnits {n places : Nat} {unit : String} (lacks : Lacks unit) :
    Lacks (Duration.inUnits n places unit) := by
  have digits : ∀ c ∈ ((Decimal.padded places (n % Nat.pow 10 places)).toList.reverse.dropWhile
      (· = '0')).reverse, c.toLower ≠ 'q' := by
    intro c mem
    rw [List.mem_reverse] at mem
    have kept := List.mem_reverse.mp ((List.dropWhile_sublist _).mem mem)
    exact toLower_ne_of_isDigit (isDigit_of_mem_padded kept)
  refine ((lacks_toString _).append (.ofList ?_)).append lacks
  simp only [List.mem_map, not_exists, not_and]
  split
  · exact nofun
  · exact List.forall_mem_cons.mpr ⟨by decide, digits⟩

theorem Duration.lacks_text (duration : Duration) : Lacks duration.text := by
  unfold text
  dsimp only
  split
  · exact lacks_inUnits (.ofList (by decide))
  · split
    · exact lacks_inUnits (.ofList (by decide))
    · split
      · exact lacks_inUnits (.ofList (by decide))
      · exact lacks_inUnits (.ofList (by decide))

theorem not_saysMissing_ofList (lacking : ¬ usagePhrase ⊆ l.map Char.toLower) :
    ¬ SaysMissing (.ofList l) :=
  fun found => lacking (toList_lower_ofList ▸ found.subset)

/-- None of the words of the system has the phrase: each lacks one of its letters. -/
theorem not_saysMissing_systemMessage (number : Nat) : ¬ SaysMissing (systemMessage number) := by
  unfold systemMessage
  split
  case h_133 =>
    have words : Lacks "Unknown error " := .ofList (by decide)
    exact (words.append (lacks_toString _)).not_saysMissing
  all_goals exact not_saysMissing_ofList (by decide)

theorem FileTree.Cause.not_saysMissing (cause : Cause) : ¬ SaysMissing cause.message := by
  cases cause with
  | system number =>
    have error : BeginsNone " (os error " := .ofList (by decide)
    have error' : EndsNone " (os error " := .ofList (by decide)
    have bracket : '(' ∈ (lower " (os error ").toList := by decide
    rw [message, saysMissing_before (.ofList (by decide)),
      saysMissing_beside error error' bracket (by decide)]
    exact not_or.mpr ⟨not_saysMissing_systemMessage number, (lacks_toString number).not_saysMissing⟩
  | notText => exact not_saysMissing_ofList (by decide)
  | nulInPath => exact not_saysMissing_ofList (by decide)
  | nulInCommand => exact not_saysMissing_ofList (by decide)

/-! The messages of faults -/

theorem beginsNone_role (role : Role) : BeginsNone role.name := by
  cases role
  · exact .ofList (by decide)
  · exact .ofList (by decide)

theorem endsNone_role (role : Role) : EndsNone role.name := by
  cases role
  · exact .ofList (by decide)
  · exact .ofList (by decide)

theorem beginsNone_profiler (profiler : Profiler) : BeginsNone profiler.name := by
  cases profiler
  all_goals exact .ofList (by decide)

theorem lacks_profiler (profiler : Profiler) : Lacks profiler.name := by
  cases profiler
  all_goals exact .ofList (by decide)

theorem saysMissing_singleton {path : Path} : SaysMissing path ↔ ∃ p ∈ [path], SaysMissing p := by
  simp

theorem Lacks.saysMissing_nil (lacks : Lacks s) :
    SaysMissing s ↔ ∃ p ∈ ([] : List Path), SaysMissing p := by
  simp [lacks.not_saysMissing]

/-- The paths that the outermost message of a fault of generation quotes. -/
def Generation.Fault.quoted : Generation.Fault → List Path
  | .noDirectory directory => [directory]
  | .badCatalog path _ => [path]
  | .badSelection _ path _ => [path]
  | .undeclarable _ => []
  | .noTemplate path _ => [path]
  | .unwritable path _ => [path]

theorem Generation.Fault.saysMissing_iff {fault : Generation.Fault}
    (declarable : ∀ problem, fault ≠ .undeclarable problem) :
    SaysMissing (fault.chain.headD "") ↔ ∃ path ∈ fault.quoted, SaysMissing path := by
  have absent : EndsNone " does not exist" := .ofList (by decide)
  cases fault with
  | noDirectory directory =>
    exact (saysMissing_within (.ofList (by decide)) absent).trans saysMissing_singleton
  | badCatalog path problem =>
    exact (saysMissing_after (.ofList (by decide))).trans saysMissing_singleton
  | badSelection profiler path problem =>
    have invalid : BeginsNone ("Invalid " ++ profiler.name ++ " module specification ") :=
      (BeginsNone.append (.ofList (by decide)) (beginsNone_profiler profiler)).append
        (.ofList (by decide))
    exact (saysMissing_after invalid).trans saysMissing_singleton
  | undeclarable problem => exact absurd rfl (declarable problem)
  | noTemplate path cause =>
    exact (saysMissing_within (.ofList (by decide)) absent).trans saysMissing_singleton
  | unwritable path cause =>
    exact (saysMissing_after (.ofList (by decide))).trans saysMissing_singleton

/-- The paths that the message of a fault of a check quotes. -/
def Preflight.Fault.quoted : Preflight.Fault → List Path
  | .missing _ program => [program]
  | .notFile _ program => [program]
  | .notExecutable program => [program]
  | .unreadable program _ => [program]
  | .objectFile program => [program]
  | .noThread => []
  | .oneThreadOnly .. => []
  | .unevenThreads _ => []
  | .noDirectory directory => [directory]
  | .closedDirectory directory => [directory]

theorem Preflight.Fault.saysMissing_iff (fault : Preflight.Fault) :
    SaysMissing fault.message ↔ ∃ path ∈ fault.quoted, SaysMissing path := by
  cases fault with
  | missing role program =>
    have notFound : BeginsNone (role.name ++ " executable not found: ") :=
      (beginsNone_role role).append (.ofList (by decide))
    exact (saysMissing_within notFound (.ofList (by decide))).trans saysMissing_singleton
  | notFile role program =>
    change SaysMissing ("Not a file: " ++ program ++ "\n\nThe " ++ role.name ++
      " must be an executable file, not a directory.") ↔ _
    rw [saysMissing_before (.ofList (by decide)), saysMissing_before (endsNone_role role)]
    exact (saysMissing_within (.ofList (by decide)) (.ofList (by decide))).trans
      saysMissing_singleton
  | notExecutable program =>
    have lineEnd : '\n' ∈ (lower " is not executable.\n\nFix with: chmod +x ").toList := by decide
    have either := saysMissing_beside (.ofList (by decide)) (.ofList (by decide)) lineEnd
      (by decide : '\n' ∉ usagePhrase) (s := "Permission denied: " ++ program) (t := program)
    rw [saysMissing_after (.ofList (by decide)), or_self] at either
    exact either.trans saysMissing_singleton
  | unreadable program cause =>
    exact (saysMissing_after (.ofList (by decide))).trans saysMissing_singleton
  | objectFile program =>
    change SaysMissing (program ++ " is an object file, not an executable.\n\n" ++
      "Link the instrumented object before running a session.") ↔ _
    rw [saysMissing_before (.ofList (by decide)), saysMissing_before (.ofList (by decide))]
    exact saysMissing_singleton
  | noThread => exact (Lacks.ofList (by decide)).saysMissing_nil
  | oneThreadOnly profiler threads =>
    have words : Lacks ("Module " ++ profiler.name ++ " only supports 1 thread (got --threads ") :=
      (Lacks.append (.ofList (by decide)) (lacks_profiler profiler)).append (.ofList (by decide))
    exact ((words.append (lacks_toString threads)).append (.ofList (by decide))).saysMissing_nil
  | unevenThreads threads =>
    have words : Lacks "--threads must be a power of two (got " := .ofList (by decide)
    exact ((words.append (lacks_toString threads)).append (.ofList (by decide))).saysMissing_nil
  | noDirectory directory =>
    change SaysMissing ("Shared-memory namespace " ++ directory ++ " does not exist.\n\n" ++
      "Is /dev/shm mounted? Override with --channel-dir.") ↔ _
    rw [saysMissing_before (.ofList (by decide))]
    exact (saysMissing_within (.ofList (by decide)) (.ofList (by decide))).trans
      saysMissing_singleton
  | closedDirectory directory =>
    exact (saysMissing_after (.ofList (by decide))).trans saysMissing_singleton

/-- The paths that the message of a fault of a session quotes. -/
def SessionFault.quoted : SessionFault → List Path
  | .unreserved (.unmarkable path _) => [path]
  | .unlaunched _ program _ => [program]
  | _ => []

theorem saysMissing_before_cause {cause : Cause} :
    SaysMissing (s ++ ": " ++ cause.message) ↔ SaysMissing s := by
  have colon : ':' ∈ (lower ": ").toList := by decide
  have either := saysMissing_beside (.ofList (by decide)) (.ofList (by decide)) colon
    (by decide : ':' ∉ usagePhrase) (s := s) (t := cause.message)
  exact either.trans (or_iff_left cause.not_saysMissing)

theorem SessionFault.saysMissing_iff {fault : SessionFault}
    (unended : (CommandLine.CommandFault.session fault).isBadEnd = false) :
    SaysMissing fault.message ↔ ∃ path ∈ fault.quoted, SaysMissing path := by
  cases fault with
  | unreserved fault =>
    cases fault with
    | exhausted low high attempts =>
      have words : Lacks ("No free channel id in " ++ toString low ++ "..=" ++ toString high ++
          " after ") :=
        (((Lacks.append (.ofList (by decide)) (lacks_toString low)).append
          (.ofList (by decide))).append (lacks_toString high)).append (.ofList (by decide))
      exact ((words.append (lacks_toString attempts)).append (.ofList (by decide))).saysMissing_nil
    | unmarkable path cause =>
      exact (saysMissing_before_cause.trans (saysMissing_after (.ofList (by decide)))).trans
        saysMissing_singleton
  | unlaunched role program cause =>
    have failed : BeginsNone ("Failed to launch " ++ role.name ++ " ") :=
      (BeginsNone.append (.ofList (by decide)) (beginsNone_role role)).append (.ofList (by decide))
    exact (saysMissing_before_cause.trans (saysMissing_after failed)).trans saysMissing_singleton
  | consumerNotReady waited =>
    have words : Lacks "Consumer did not publish the channel within " := .ofList (by decide)
    exact (words.append waited.lacks_text).saysMissing_nil
  | orderViolation => cases unended
  | timedOut => cases unended
  | nonZeroExit => cases unended
  | unwaited cause =>
    change SaysMissing cause.message ↔ ∃ path ∈ ([] : List Path), SaysMissing path
    simp [cause.not_saysMissing]

namespace CommandLine.CommandFault

def quoted : CommandFault → List Path
  | .header fault => fault.quoted
  | .program _ => []
  | .preflight fault => fault.quoted
  | .session fault => fault.quoted
  | .collection _ => []

theorem saysMissingArgument_eq_true_iff {fault : CommandFault} :
    fault.saysMissingArgument = true ↔ SaysMissing (fault.chain.headD "") :=
  Text.occursIn_eq_true_iff

/-- A fault that is no bad end of a session says that an argument is missing if it is that a program
is not known, or if its message quotes a path that says so. -/
theorem saysMissing_iff {fault : CommandFault} (unended : fault.isBadEnd = false)
    (declarable : ∀ problem, fault ≠ .header (.undeclarable problem)) :
    SaysMissing (fault.chain.headD "") ↔
      (∃ missing, fault = .program missing) ∨ ∃ path ∈ fault.quoted, SaysMissing path := by
  have paths (fault : CommandFault) (other : ∀ missing, fault ≠ .program missing) :
      (∃ path ∈ fault.quoted, SaysMissing path) ↔
        (∃ missing, fault = .program missing) ∨ ∃ path ∈ fault.quoted, SaysMissing path :=
    (or_iff_right fun ⟨missing, same⟩ => other missing same).symm
  cases fault with
  | header fault =>
    have declarable' : ∀ problem, fault ≠ .undeclarable problem := by
      rintro problem rfl
      exact declarable problem rfl
    exact (Generation.Fault.saysMissing_iff declarable').trans (paths (.header fault) nofun)
  | program missing =>
    have named : SaysMissing missing.message := by
      rw [SaysMissing, ← Text.occursIn_eq_true_iff]
      cases missing <;> decide +kernel
    exact ⟨fun _ => .inl ⟨missing, rfl⟩, fun _ => named⟩
  | preflight fault =>
    have outermost : (CommandFault.preflight fault).chain.headD "" = fault.message := by
      cases fault <;> rfl
    rw [outermost]
    exact fault.saysMissing_iff.trans (paths (.preflight fault) nofun)
  | session fault => exact (SessionFault.saysMissing_iff unended).trans (paths (.session fault) nofun)
  | collection fault =>
    have words : Lacks "Failed to collect profile" := .ofList (by decide)
    exact words.saysMissing_nil.trans (paths (.collection fault) nofun)

end CommandLine.CommandFault

end ProfilingSession
