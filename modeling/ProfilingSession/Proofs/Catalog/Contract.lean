import ProfilingSession.Proofs.Catalog.WellFormed
import ProfilingSession.Proofs.Text.Identifiers

/-!
# Which documents are catalogs

`Contract` says what the events of a catalog have to be, in the words of the specification of
catalogs: identifiers as names, event names that differ in more than case, bodies that are null or
mappings, and widths that are multiples of 8 from 8 to 2^32 - 8. `Violation` says which problem is
reported otherwise: that of the first event, in the order of the document, that does not go with
those before it, and of that event the first one when its name, its body and then its parameters
are looked at in order. `ofDocument_iff` says that the reader keeps to both, and that the catalog
lists what is written.
-/

namespace ProfilingSession.Catalog

open Document (keys)
open Specification (Eventless HasEvents Problem)

def IsByteWidth (width : Int) : Prop :=
  8 ≤ width ∧ width ≤ 2 ^ 32 - 8 ∧ 8 ∣ width

def IsParameter (entry : String × Document) : Prop :=
  Text.IsIdentifier entry.1 ∧ ∃ width, entry.2 = .int width ∧ IsByteWidth width

/-- A body of an event with its entries: null stands for none. -/
inductive IsBody : Document → List (String × Document) → Prop where
  | null : IsBody .null []
  | mapping (entries : List (String × Document)) : IsBody (.mapping entries) entries

def IsEvent (entry : String × Document) : Prop :=
  Text.IsIdentifier entry.1 ∧ ∃ parameters, IsBody entry.2 parameters ∧
    ∀ parameter ∈ parameters, IsParameter parameter

/-- A name is that of an earlier one, up to the case of letters. -/
def IsTaken (earlier : List String) (name : String) : Prop :=
  ∃ other ∈ earlier, Text.lower other = Text.lower name

/-- What the events of a catalog have to be. -/
structure Contract (events : List (String × Document)) : Prop where
  isEvent : ∀ entry ∈ events, IsEvent entry
  namesDiffer : (keys events).Pairwise fun name other => Text.lower name ≠ Text.lower other

/-- An event of a catalog is the one that is written in an entry: with the same name, and the same
parameters and widths in the same order. -/
def IsWritten (entry : String × Document) (event : Event) : Prop :=
  entry.1 = event.name ∧
    IsBody entry.2 (event.parameters.map fun parameter => (parameter.name, .int parameter.width))

/-- What is wrong with an entry that is no parameter: its name, else its value, else its width. -/
inductive ParameterViolation (event : String) : String × Document → Problem → Prop where
  | identifier {name : String} {value : Document} (bad : ¬ Text.IsIdentifier name) :
    ParameterViolation event (name, value) (.badIdentifier name)
  | integer {name : String} {value : Document} (named : Text.IsIdentifier name)
    (other : ∀ width, value ≠ .int width) :
    ParameterViolation event (name, value) (.notWhole event name)
  | width {name : String} {width : Int} (named : Text.IsIdentifier name)
    (bad : ¬ IsByteWidth width) :
    ParameterViolation event (name, .int width) (.badWidth event name width)

/-- What is wrong with an entry after events with the names `earlier`: its name, else that it is
taken, else the body, else the first parameter that is none. -/
inductive EventViolation (earlier : List String) : String × Document → Problem → Prop where
  | identifier {name : String} {body : Document} (bad : ¬ Text.IsIdentifier name) :
    EventViolation earlier (name, body) (.badIdentifier name)
  | taken {name : String} {body : Document} (named : Text.IsIdentifier name)
    (taken : IsTaken earlier name) : EventViolation earlier (name, body) (.repeatedEvent name)
  | body {name : String} {body : Document} (named : Text.IsIdentifier name)
    (fresh : ¬ IsTaken earlier name) (other : ∀ parameters, ¬ IsBody body parameters) :
    EventViolation earlier (name, body) (.parametersNotMapping name)
  | parameter {name : String} {before after : List (String × Document)}
    {entry : String × Document} {problem : Problem} (named : Text.IsIdentifier name)
    (fresh : ¬ IsTaken earlier name) (right : ∀ parameter ∈ before, IsParameter parameter)
    (wrong : ParameterViolation name entry problem) :
    EventViolation earlier (name, .mapping (before ++ entry :: after)) problem

/-- What is wrong with a document that is no catalog: that it has no events, else what is wrong
with the first of them that does not go with those before it. -/
inductive Violation (document : Document) : Problem → Prop where
  | eventless {problem : Problem} (without : Eventless .catalog document problem) :
    Violation document problem
  | event {before after : List (String × Document)} {entry : String × Document} {problem : Problem}
    (has : HasEvents document (before ++ entry :: after)) (right : Contract before)
    (wrong : EventViolation (keys before) entry problem) : Violation document problem

variable {event name : String} {entry : String × Document} {problem : Problem} {width : Int}
variable {body : Document} {seen : List String} {entries rest : List (String × Document)}

/-! Parameters -/

theorem isWidth_iff : isWidth width = true ↔ IsByteWidth width := by
  have greatest : (greatestWidth : Int) = 2 ^ 32 - 8 := by decide
  rw [isWidth, Bool.and_eq_true, Bool.and_eq_true, decide_eq_true_eq, decide_eq_true_eq,
    beq_iff_eq, greatest, IsByteWidth]
  omega

theorem checkIdentifier_eq_error :
    checkIdentifier name = .error problem ↔
      ¬ Text.IsIdentifier name ∧ problem = .badIdentifier name := by
  rw [← Text.isIdentifier_iff, checkIdentifier]
  cases Text.isIdentifier name <;> simp [eq_comm]

theorem exists_readParameter_iff :
    (∃ parameter, readParameter event entry = .ok parameter) ↔ IsParameter entry := by
  simp only [readParameter_eq_ok, Text.isIdentifier_iff, isWidth_iff, IsParameter]
  constructor
  · rintro ⟨_, named, width, value, whole, -⟩
    exact ⟨named, width, value, whole⟩
  · rintro ⟨named, width, value, whole⟩
    exact ⟨_, named, width, value, whole, rfl⟩

theorem readParameter_eq_error :
    readParameter event entry = .error problem ↔ ParameterViolation event entry problem := by
  obtain ⟨name, value⟩ := entry
  simp only [readParameter, bind_eq_error_iff, checkIdentifier_eq_error, checkIdentifier_eq_ok,
    Text.isIdentifier_iff, exists_const]
  constructor
  · rintro (⟨bad, rfl⟩ | ⟨named, failed⟩)
    · exact .identifier bad
    · cases value with
      | int width =>
        by_cases whole : isWidth width = true
        · simp [whole, pure, Except.pure] at failed
        · simp only [whole, Bool.false_eq_true, if_false, Except.error.injEq] at failed
          subst failed
          exact .width named (mt isWidth_iff.mpr whole)
      | _ =>
        cases failed
        refine .integer named fun width whole => ?_
        cases whole
  · intro wrong
    cases wrong with
    | identifier bad => exact .inl ⟨bad, rfl⟩
    | integer named other =>
      refine .inr ⟨named, ?_⟩
      split
      · next width => exact absurd rfl (other width)
      · rfl
    | width named bad => exact .inr ⟨named, by simp [mt isWidth_iff.mp bad]⟩

/-- A parameter that is read is the one that is written. -/
theorem entry_of_readParameter {parameter : Parameter}
    (read : readParameter event entry = .ok parameter) :
    entry = (parameter.name, .int parameter.width) := by
  obtain ⟨name, value⟩ := entry
  obtain ⟨-, width, rfl, whole, rfl⟩ := readParameter_eq_ok.mp read
  have positive : 0 ≤ width := by
    have := (isWidth_iff.mp whole).1
    omega
  simp [Int.toNat_of_nonneg positive]

/-! Bodies -/

theorem exists_readParameters_iff (event : String) :
    (∃ parameters, readParameters event body = .ok parameters) ↔
      ∃ entries, IsBody body entries ∧ ∀ entry ∈ entries, IsParameter entry := by
  cases body with
  | null => exact ⟨fun _ => ⟨[], .null, by simp⟩, fun _ => ⟨[], rfl⟩⟩
  | mapping entries =>
    simp only [readParameters, exists_mapM_eq_ok_iff, exists_readParameter_iff]
    constructor
    · intro right
      exact ⟨entries, .mapping entries, right⟩
    · rintro ⟨_, ⟨⟩, right⟩
      exact right
  | _ =>
    constructor
    · rintro ⟨_, ⟨⟩⟩
    · rintro ⟨_, ⟨⟩, -⟩

/-- The parameters that are read are those that are written, with nothing left out. -/
theorem isBody_of_readParameters {parameters : List Parameter}
    (read : readParameters event body = .ok parameters) :
    IsBody body (parameters.map fun parameter => (parameter.name, .int parameter.width)) := by
  cases body with
  | null =>
    cases read
    exact .null
  | mapping entries =>
    have same : entries = parameters.map fun parameter =>
        (parameter.name, Document.int parameter.width) := by
      have each := mapM_eq_ok_iff.mp read
      clear read
      induction each with
      | nil => rfl
      | cons first _ ih => rw [List.map_cons, ← ih, entry_of_readParameter first]
    rw [← same]
    exact .mapping entries
  | _ => cases read

theorem readParameters_eq_error :
    readParameters event body = .error problem ↔
      ((∀ entries, ¬ IsBody body entries) ∧ problem = .parametersNotMapping event) ∨
        ∃ before entry after, body = .mapping (before ++ entry :: after) ∧
          (∀ parameter ∈ before, IsParameter parameter) ∧
          ParameterViolation event entry problem := by
  cases body with
  | null =>
    have none' : IsBody .null [] := .null
    simp only [readParameters, reduceCtorEq, false_and, exists_false, or_false, false_iff, not_and]
    exact fun other => absurd none' (other [])
  | mapping entries =>
    have some' : ¬ ∀ others, ¬ IsBody (.mapping entries) others :=
      fun other => other entries (.mapping entries)
    simp only [readParameters, mapM_eq_error_iff, exists_readParameter_iff, readParameter_eq_error,
      some', false_and, false_or, Document.mapping.injEq]
  | _ =>
    simp only [readParameters, Except.error.injEq, reduceCtorEq, false_and, exists_false, or_false]
    constructor
    · rintro rfl
      exact ⟨nofun, rfl⟩
    · rintro ⟨-, rfl⟩
      rfl

/-! Events -/

theorem any_sameLetters_iff : seen.any (Text.sameLetters name) = true ↔ IsTaken seen name := by
  simp only [IsTaken, List.any_eq_true, Text.sameLetters_iff, @eq_comm String (Text.lower name)]

theorem isTaken_cons {other : String} :
    IsTaken (other :: seen) name ↔ Text.lower other = Text.lower name ∨ IsTaken seen name := by
  simp [IsTaken]

/-- What events have to be after those with the names `seen`. -/
structure FitAfter (seen : List String) (entries : List (String × Document)) : Prop where
  contract : Contract entries
  fresh : ∀ name ∈ keys entries, ¬ IsTaken seen name

theorem fitAfter_nil (seen : List String) : FitAfter seen [] :=
  ⟨⟨by simp, .nil⟩, by simp [keys]⟩

theorem fitAfter_nil_iff : FitAfter [] entries ↔ Contract entries :=
  ⟨FitAfter.contract, fun contract => ⟨contract, by simp [IsTaken]⟩⟩

theorem fitAfter_cons_iff :
    FitAfter seen (entry :: rest) ↔
      IsEvent entry ∧ ¬ IsTaken seen entry.1 ∧ FitAfter (entry.1 :: seen) rest := by
  constructor
  · rintro ⟨⟨isEvent, differ⟩, fresh⟩
    obtain ⟨first, others⟩ := List.forall_mem_cons.mp isEvent
    obtain ⟨apart, differ⟩ := List.pairwise_cons.mp differ
    obtain ⟨firstFresh, fresh⟩ := List.forall_mem_cons.mp fresh
    refine ⟨first, firstFresh, ⟨others, differ⟩, fun name mem => ?_⟩
    rw [isTaken_cons, not_or]
    exact ⟨apart name mem, fresh name mem⟩
  · rintro ⟨first, firstFresh, ⟨others, differ⟩, fresh⟩
    simp only [isTaken_cons, not_or, forall_and] at fresh
    exact ⟨⟨List.forall_mem_cons.mpr ⟨first, others⟩, List.pairwise_cons.mpr ⟨fresh.1, differ⟩⟩,
      List.forall_mem_cons.mpr ⟨firstFresh, fresh.2⟩⟩

theorem exists_readEvents_iff :
    (∃ events, readEvents seen entries = .ok events) ↔ FitAfter seen entries := by
  induction entries generalizing seen with
  | nil => exact ⟨fun _ => fitAfter_nil seen, fun _ => ⟨[], rfl⟩⟩
  | cons entry rest ih =>
    obtain ⟨name, body⟩ := entry
    rw [fitAfter_cons_iff, ← ih, IsEvent, ← Text.isIdentifier_iff, ← any_sameLetters_iff,
      ← exists_readParameters_iff name]
    simp only [readEvents_cons_eq_ok, Bool.not_eq_true]
    constructor
    · rintro ⟨_, named, fresh, parameters, body', events, others, -⟩
      exact ⟨⟨named, parameters, body'⟩, fresh, events, others⟩
    · rintro ⟨⟨named, parameters, body'⟩, fresh, events, others⟩
      exact ⟨_, named, fresh, parameters, body', events, others, rfl⟩

theorem forall₂_isWritten_of_readEvents {events : List Event}
    (read : readEvents seen entries = .ok events) : List.Forall₂ IsWritten entries events := by
  induction entries generalizing seen events with
  | nil =>
    cases read
    exact .nil
  | cons entry rest ih =>
    obtain ⟨-, -, parameters, body, others, further, rfl⟩ := readEvents_cons_eq_ok.mp read
    exact .cons ⟨rfl, isBody_of_readParameters body⟩ (ih further)

/-- The order of the events before does not matter. -/
theorem EventViolation.congr {earlier : List String}
    (same : ∀ other, other ∈ seen ↔ other ∈ earlier)
    (wrong : EventViolation seen entry problem) : EventViolation earlier entry problem := by
  have taken : ∀ name, IsTaken seen name ↔ IsTaken earlier name := by simp [IsTaken, same]
  cases wrong with
  | identifier bad => exact .identifier bad
  | taken named met => exact .taken named ((taken _).mp met)
  | body named fresh other => exact .body named (mt (taken _).mpr fresh) other
  | parameter named fresh right wrong => exact .parameter named (mt (taken _).mpr fresh) right wrong

/-- An event is looked at in order: its name, whether that is taken, and its body. -/
theorem eventViolation_iff :
    EventViolation seen (name, body) problem ↔
      (¬ Text.IsIdentifier name ∧ problem = .badIdentifier name) ∨
        Text.IsIdentifier name ∧
          (IsTaken seen name ∧ problem = .repeatedEvent name ∨
            ¬ IsTaken seen name ∧ readParameters name body = .error problem) := by
  rw [readParameters_eq_error]
  constructor
  · intro wrong
    cases wrong with
    | identifier bad => exact .inl ⟨bad, rfl⟩
    | taken named taken => exact .inr ⟨named, .inl ⟨taken, rfl⟩⟩
    | body named fresh other => exact .inr ⟨named, .inr ⟨fresh, .inl ⟨other, rfl⟩⟩⟩
    | parameter named fresh right wrong =>
      exact .inr ⟨named, .inr ⟨fresh, .inr ⟨_, _, _, rfl, right, wrong⟩⟩⟩
  · rintro (⟨bad, rfl⟩ | ⟨named, ⟨taken, rfl⟩ | ⟨fresh, ⟨other, rfl⟩ |
      ⟨_, _, _, rfl, right, wrong⟩⟩⟩)
    · exact .identifier bad
    · exact .taken named taken
    · exact .body named fresh other
    · exact .parameter named fresh right wrong

theorem readEvents_cons_eq_error :
    readEvents seen (entry :: rest) = .error problem ↔
      EventViolation seen entry problem ∨
        IsEvent entry ∧ ¬ IsTaken seen entry.1 ∧
          readEvents (entry.1 :: seen) rest = .error problem := by
  obtain ⟨name, body⟩ := entry
  rw [eventViolation_iff, IsEvent, ← exists_readParameters_iff name]
  simp only [readEvents, bind_eq_error_iff, checkIdentifier_eq_error, checkIdentifier_eq_ok,
    Text.isIdentifier_iff, exists_const, ← any_sameLetters_iff]
  cases seen.any (Text.sameLetters name) with
  | true => simp [bind, Except.bind, @eq_comm _ problem]
  | false =>
    simp only [Bool.false_eq_true, if_false, bind_eq_error_iff, pure, Except.pure, reduceCtorEq,
      and_false, exists_false, or_false, exists_and_right]
    tauto

theorem readEvents_eq_error :
    readEvents seen entries = .error problem ↔
      ∃ before entry after, entries = before ++ entry :: after ∧ FitAfter seen before ∧
        EventViolation (keys before ++ seen) entry problem := by
  induction entries generalizing seen with
  | nil => simp [readEvents]
  | cons entry rest ih =>
    have same : ∀ before other, other ∈ keys before ++ entry.1 :: seen ↔
        other ∈ keys (entry :: before) ++ seen := by
      intro before other
      simp [keys, or_left_comm]
    rw [readEvents_cons_eq_error, ih]
    constructor
    · rintro (wrong | ⟨isEvent, fresh, before, entry', after, rfl, fit, wrong⟩)
      · exact ⟨[], entry, rest, rfl, fitAfter_nil seen, wrong⟩
      · exact ⟨entry :: before, entry', after, rfl, fitAfter_cons_iff.mpr ⟨isEvent, fresh, fit⟩,
          wrong.congr (same before)⟩
    · rintro ⟨before, entry', after, shape, fit, wrong⟩
      cases before with
      | nil =>
        obtain ⟨rfl, rfl⟩ := List.cons.inj shape
        exact .inl wrong
      | cons first before =>
        obtain ⟨rfl, rfl⟩ := List.cons.inj shape
        obtain ⟨isEvent, fresh, fit⟩ := fitAfter_cons_iff.mp fit
        exact .inr ⟨isEvent, fresh, before, entry', after, rfl, fit,
          wrong.congr fun other => (same before other).symm⟩

/-- A document is accepted as a catalog if, and only if, its events keep to the contract, and the
catalog lists them as they are written; otherwise the first violation is reported. -/
theorem ofDocument_iff (document : Document) :
    ((∃ catalog, ofDocument document = .ok catalog) ↔
        ∃ events, HasEvents document events ∧ Contract events) ∧
      (∀ catalog, ofDocument document = .ok catalog →
        ∃ events, HasEvents document events ∧ List.Forall₂ IsWritten events catalog.events) ∧
      ∀ problem, ofDocument document = .error problem ↔ Violation document problem := by
  simp only [ofDocument, bind_eq_ok_iff, bind_eq_error_iff, Specification.eventsOf_eq_ok_iff,
    Specification.eventsOf_eq_error_iff, pure, Except.pure, Except.ok.injEq]
  refine ⟨⟨?_, ?_⟩, ?_, fun problem => ⟨?_, ?_⟩⟩
  · rintro ⟨_, written, has, events, read, -⟩
    exact ⟨written, has, fitAfter_nil_iff.mp (exists_readEvents_iff.mp ⟨events, read⟩)⟩
  · rintro ⟨written, has, contract⟩
    obtain ⟨events, read⟩ := exists_readEvents_iff.mpr (fitAfter_nil_iff.mpr contract)
    exact ⟨⟨events⟩, written, has, events, read, rfl⟩
  · rintro _ ⟨written, has, events, read, rfl⟩
    exact ⟨written, has, forall₂_isWritten_of_readEvents read⟩
  · rintro (without | ⟨written, has, failed | ⟨_, -, done⟩⟩)
    · exact .eventless without
    · obtain ⟨before, entry, after, rfl, fit, wrong⟩ := readEvents_eq_error.mp failed
      rw [List.append_nil] at wrong
      exact .event has fit.contract wrong
    · cases done
  · intro wrong
    cases wrong with
    | eventless without => exact .inl without
    | event has right wrong =>
      refine .inr ⟨_, has, .inl (readEvents_eq_error.mpr ⟨_, _, _, rfl, ?_, ?_⟩)⟩
      · exact fitAfter_nil_iff.mpr right
      · rwa [List.append_nil]

end ProfilingSession.Catalog
