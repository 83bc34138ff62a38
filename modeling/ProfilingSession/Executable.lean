/-!
# Executables

What a file of machine code in the executable and linkable format says about itself: its kind and
how many symbols it lists. `Executable.read?` reads that much of a file, and refuses a file in
which the header, or a table it needs, is not whole, not aligned or not where the header says.

Numbers are of two widths and two byte orders, which the first bytes of the file fix.
-/

namespace ProfilingSession.Executable

/-- Where the numbers of a header and of the entries of the tables are, and the sizes. -/
structure Layout where
  /-- The bytes of an address or offset, which tables are aligned to. -/
  word : Nat
  headerSize : Nat
  segmentSize : Nat
  sectionSize : Nat
  symbolSize : Nat
  segmentsAt : Nat
  sectionsAt : Nat
  segmentSizeAt : Nat
  sectionOffsetAt : Nat
  sectionLengthAt : Nat
  sectionLinkAt : Nat

def narrow : Layout where
  word := 4
  headerSize := 52
  segmentSize := 32
  sectionSize := 40
  symbolSize := 16
  segmentsAt := 28
  sectionsAt := 32
  segmentSizeAt := 42
  sectionOffsetAt := 16
  sectionLengthAt := 20
  sectionLinkAt := 24

def wide : Layout where
  word := 8
  headerSize := 64
  segmentSize := 56
  sectionSize := 64
  symbolSize := 24
  segmentsAt := 32
  sectionsAt := 40
  segmentSizeAt := 54
  sectionOffsetAt := 24
  sectionLengthAt := 32
  sectionLinkAt := 40

/-- A file with its layout and byte order. -/
structure Image where
  bytes : ByteArray
  layout : Layout
  /-- Whether the most significant byte comes first. -/
  bigEndian : Bool

namespace Image

/-- The number in some bytes, the least significant one first. -/
def littleNumber : List UInt8 → Nat
  | [] => 0
  | byte :: rest => byte.toNat + 256 * littleNumber rest

/-- The number of some bytes at an offset; bytes beyond the end are zero. -/
def number (image : Image) (offset width : Nat) : Nat :=
  let digits := (image.bytes.extract offset (offset + width)).toList
  littleNumber (if image.bigEndian then digits.reverse else digits)

def word (image : Image) (offset : Nat) : Nat :=
  image.number offset image.layout.word

/-- Whether a table lies in the file, at an aligned offset. -/
def hasTable (image : Image) (offset count size : Nat) : Bool :=
  offset % image.layout.word == 0 && offset + count * size ≤ image.bytes.size

def kindNumber (image : Image) : Nat :=
  image.number 16 2

/-- The offset of the table of sections, zero if there is none. -/
def sectionsOffset (image : Image) : Nat :=
  image.word image.layout.sectionsAt

def tableNumber (image : Image) (index : Nat) : Nat :=
  image.number (image.layout.segmentSizeAt + 2 * index) 2

structure Section where
  kind : Nat
  offset : Nat
  length : Nat
  link : Nat
  info : Nat
  deriving DecidableEq, Repr

def sectionAt (image : Image) (index : Nat) : Section :=
  let start := image.sectionsOffset + index * image.layout.sectionSize
  let layout := image.layout
  ⟨image.number (start + 4) 4, image.word (start + layout.sectionOffsetAt),
    image.word (start + layout.sectionLengthAt), image.number (start + layout.sectionLinkAt) 4,
    image.number (start + layout.sectionLinkAt + 4) 4⟩

/-- The first section, which holds the numbers that are too great for the header. If there is a
table of sections it has to be there. -/
def firstSection? (image : Image) : Option (Option Section) :=
  let offset := image.sectionsOffset
  if offset = 0 then some none
  else if image.tableNumber 2 ≠ image.layout.sectionSize then none
  else if image.hasTable offset 1 image.layout.sectionSize then some (some (image.sectionAt 0))
  else none

def sections? (image : Image) : Option (List Section) := do
  let offset := image.sectionsOffset
  if offset = 0 then return []
  let written := image.tableNumber 3
  let count ←
    if 0 < written then some written
    else image.firstSection?.map fun first => (first.map Section.length).getD 0
  if count = 0 then return []
  guard (image.tableNumber 2 = image.layout.sectionSize)
  guard (image.hasTable offset count image.layout.sectionSize)
  return (List.range count).map image.sectionAt

/-- The number of segments that stands for a greater one in the first section. -/
def manySegments : Nat := 0xffff

/-- The index that stands for a greater one in the first section. -/
def farIndex : Nat := 0xffff

/-- Whether the table of segments, if there is one, is whole. -/
def hasSegments (image : Image) : Bool :=
  let offset := image.word image.layout.segmentsAt
  if offset = 0 then true
  else
    let written := image.tableNumber 1
    let count :=
      if written < manySegments then some written
      else image.firstSection?.join.map Section.info
    match count with
    | none => false
    | some 0 => true
    | some count =>
      image.tableNumber 0 == image.layout.segmentSize &&
        image.hasTable offset count image.layout.segmentSize

def greatestOffset : Nat := Nat.pow 2 64 - 1

/-- Whether the section that the names of sections are in exists, if there are sections. -/
def hasSectionNames (image : Image) (sections : List Section) : Bool :=
  sections.isEmpty ||
    let written := image.tableNumber 4
    let index :=
      if written ≠ farIndex then some written
      else image.firstSection?.join.map Section.link
    match index with
    | none | some 0 => false
    | some index =>
      match sections[index]? with
      | some names => names.kind == 8 || names.offset + names.length ≤ greatestOffset
      | none => false

def hasEntries (image : Image) (table : Section) (alignment size : Nat) : Bool :=
  table.offset % alignment == 0 && table.length % size == 0 &&
    table.offset + table.length ≤ image.bytes.size

/-- Whether the names of a table of symbols, if it has any, are in a section of strings. -/
def hasSymbolNames (sections : List Section) (table : Section) : Bool :=
  table.link == 0 ||
    match sections[table.link]? with
    | some names => names.kind == 3 && names.offset + names.length ≤ greatestOffset
    | none => false

/-- The number of entries of a table of symbols, if it is whole and its names are. -/
def symbolCount? (image : Image) (sections : List Section) (table : Section) : Option Nat := do
  guard (image.hasEntries table image.layout.word image.layout.symbolSize)
  guard (hasSymbolNames sections table)
  return table.length / image.layout.symbolSize

/-- Whether the extended indices that belong to a table of symbols are whole. -/
def hasExtendedIndices (image : Image) (sections : List Section) (index : Nat) : Bool :=
  sections.all fun extended =>
    extended.kind != 18 || extended.link != index || image.hasEntries extended 4 4

/-- The index and number of entries of the first table of symbols of a kind; zero and zero if there
is none. -/
def symbols? (image : Image) (sections : List Section) (kind : Nat) : Option (Nat × Nat) :=
  match sections.findIdx? fun candidate => candidate.kind == kind with
  | none => some (0, 0)
  | some index => do
    let count ← image.symbolCount? sections (← sections[index]?)
    guard (image.hasExtendedIndices sections index)
    return (index, count)

/-- Whether a section lists relocations, with addends or without, or in the compact form. -/
def Section.isRelocation (candidate : Section) : Bool :=
  candidate.kind == 4 || candidate.kind == 9 || candidate.kind == 0x40000014

/-- Whether the relocations that use a table of symbols apply to sections with contents of their
own. -/
def hasTargets (sections : List Section) (symbols : Nat) : Bool :=
  sections.all fun relocations =>
    !relocations.isRelocation || relocations.link != symbols || relocations.info == 0 ||
      match sections[relocations.info]? with
      | some target => !target.isRelocation
      | none => false

end Image

/-- The kinds of files of machine code that matter. -/
inductive Kind where
  | executable
  /-- A library or an executable that can be loaded anywhere. -/
  | dynamic
  /-- An object file, a dump or something else that cannot be run. -/
  | other
  deriving DecidableEq, Repr

/-- What a file of machine code says about itself. -/
structure Summary where
  kind : Kind
  /-- The number of symbols, without the one that every table starts with. -/
  symbols : Nat
  deriving DecidableEq, Repr

/-- The layout and byte order that the first bytes of a file fix. -/
def image? (bytes : ByteArray) : Option Image := do
  guard (16 ≤ bytes.size)
  guard ((bytes.extract 0 4).toList = [0x7f, 0x45, 0x4c, 0x46])
  let layout ← match (bytes.extract 4 5).toList with
    | [1] => some narrow
    | [2] => some wide
    | _ => none
  let bigEndian ← match (bytes.extract 5 6).toList with
    | [1] => some false
    | [2] => some true
    | _ => none
  guard ((bytes.extract 6 7).toList = [1])
  guard (layout.headerSize ≤ bytes.size)
  return ⟨bytes, layout, bigEndian⟩

def Kind.ofNumber : Nat → Kind
  | 2 => .executable
  | 3 => .dynamic
  | _ => .other

/-- Reads what a file of machine code says about itself; nothing if it is none. -/
def read? (bytes : ByteArray) : Option Summary := do
  let image ← image? bytes
  guard image.hasSegments
  let sections ← image.sections?
  guard (image.hasSectionNames sections)
  let (index, count) ← image.symbols? sections 2
  let _ ← image.symbols? sections 11
  guard (Image.hasTargets sections index)
  return ⟨.ofNumber image.kindNumber, count - 1⟩

end ProfilingSession.Executable
