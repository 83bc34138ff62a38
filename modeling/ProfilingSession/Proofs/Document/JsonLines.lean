import ProfilingSession.Proofs.Document.JsonScalars

/-!
# Objects with a line for each field

How the fields of an object are put on lines of their own: `linesText` has the white space that
stands before every key, and that before the closing brace. Whatever the fields are, the lines in
braces are an object if each field is written as a value.
-/

namespace ProfilingSession.Document.Json

/-- A field has the key of an entry and is written as the value of the entry is. -/
inductive IsFieldOf (isValue : Document → List Char → Prop) :
    String × Document → String × String → Prop where
  | field {key text : String} {document : Document} (plain : key.toList.all (fun c => IsPlain c))
    (value : isValue document text.toList) : IsFieldOf isValue (key, document) (key, text)

/-- Fields on lines of their own and a last one, up to the brace after them. -/
def linesText (indent outer : String) (fields : List (String × String))
    (last : String × String) : String :=
  "\n" ++ String.join (fields.map fun field =>
    indent ++ "\"" ++ field.1 ++ "\": " ++ field.2 ++ ",\n") ++
      indent ++ "\"" ++ last.1 ++ "\": " ++ last.2 ++ "\n" ++ outer ++ "\x7d"

variable {isValue : Document → List Char → Prop} {key text indent outer : String}
variable {document : Document} {found : List (String × Document)}
variable {fields : List (String × String)} {last : String × Document} {lastField : String × String}

theorem isEntryText_line {after : List Char} (plain : key.toList.all (fun c => IsPlain c))
    (value : isValue document text.toList) (blank : IsBlank indent.toList)
    (afterBlank : IsBlank after) :
    IsEntryText isValue (key, document)
      ('\n' :: indent.toList ++
        '"' :: key.toList ++ '"' :: ':' :: ' ' :: text.toList ++ after) := by
  have before : IsBlank ('\n' :: indent.toList) := List.forall_mem_cons.mpr ⟨rfl, blank⟩
  have entry := IsEntryText.entry (forall_isPlain plain) value before
    (List.forall_mem_nil _) (by decide : IsBlank [' ']) afterBlank
  simpa using entry

theorem isEntriesText_linesText (blank : IsBlank indent.toList) (outerBlank : IsBlank outer.toList)
    (written : List.Forall₂ (IsFieldOf isValue) found fields)
    (lastWritten : IsFieldOf isValue last lastField) :
    IsEntriesText isValue (found ++ [last]) (linesText indent outer fields lastField).toList := by
  induction written with
  | nil =>
    obtain ⟨plain, value⟩ := lastWritten
    have after : IsBlank ('\n' :: outer.toList) := List.forall_mem_cons.mpr ⟨rfl, outerBlank⟩
    have entry := isEntryText_line plain value blank after
    simpa [linesText] using IsEntriesText.last entry
  | cons field others ih =>
    obtain ⟨plain, value⟩ := field
    have entry := isEntryText_line plain value blank (List.forall_mem_nil _)
    simpa [linesText] using IsEntriesText.more entry ih

/-- Lines in braces are an object. -/
theorem isObjectText_linesText (blank : IsBlank indent.toList) (outerBlank : IsBlank outer.toList)
    (written : List.Forall₂ (IsFieldOf isValue) found fields)
    (lastWritten : IsFieldOf isValue last lastField) :
    IsObjectText isValue (found ++ [last])
      ("\x7b" ++ linesText indent outer fields lastField).toList := by
  rw [String.toList_append]
  exact .entries (isEntriesText_linesText blank outerBlank written lastWritten)

end ProfilingSession.Document.Json
