import ProfilingSession.HeaderSet
import ProfilingSession.Proofs.FileTree.Growth
import ProfilingSession.Proofs.Generation.Sources

/-!
# Headers of all analyses are those of each

The header that is written for an analysis together with others is the one that is generated for it
alone, in the tree as it was at first. For all that is written before it are directories and headers,
and in a tree without links neither is a specification: what can still be read at the path of a
specification was there (`Begun.text_of_written`). So the loop keeps `Written`, which says of the
analyses that it has passed what headers there are, and that nothing else is new but directories
(`Written.skip`, `Written.add`, `writeEach_cases`).
-/

namespace ProfilingSession.HeaderSet

open FileTree (Path Location Grew)

variable {request : Request} {before after tree : FileTree} {catalog : Catalog}
variable {prelude : Option String} {profiler : Profiler} {done rest : List Profiler}
variable {progress : Progress} {name other text : String} {location : Location}

/-- A text that is a step of a path by itself. -/
structure IsStep (name : String) : Prop where
  plain : '/' ∉ name.toList
  ne_empty : name ≠ ""
  ne_dot : name ≠ "."
  ne_dots : name ≠ ".."

theorem IsStep.endsIn (h : IsStep name) (path : Path) : Path.EndsIn (Path.join path name) name :=
  FileTree.Path.endsIn_join path h.plain h.ne_empty h.ne_dot h.ne_dots

def headerName (profiler : Profiler) : String :=
  "slamp_produce_" ++ profiler.name ++ ".h"

theorem isStep_catalog : IsStep Catalog.fileName := by
  constructor <;> decide

theorem isStep_eventsFile (profiler : Profiler) : IsStep profiler.eventsFile := by
  cases profiler <;> constructor <;> decide

theorem isStep_headerName (profiler : Profiler) : IsStep (headerName profiler) := by
  cases profiler <;> constructor <;> decide

theorem headerName_injective {profiler profiler' : Profiler}
    (same : headerName profiler = headerName profiler') : profiler = profiler' := by
  cases profiler <;> cases profiler' <;> first | rfl | exact absurd same (by decide)

theorem eventsFile_ne_headerName (profiler profiler' : Profiler) :
    profiler.eventsFile ≠ headerName profiler' := by
  cases profiler <;> cases profiler' <;> decide

/-- What a request that begins has found in a tree without links. -/
structure Begun (request : Request) (before : FileTree) (catalog : Catalog)
    (prelude : Option String) : Prop where
  linkless : before.root.Linkless
  isThere : before.hasDirectory request.directory = true
  named : ∃ directory, before.Names (Path.join request.directory Catalog.fileName) directory
    Catalog.fileName
  loaded : Catalog.load before (Path.join request.directory Catalog.fileName) = .ok catalog
  opens : request.template.mapM before.text = .ok prelude

theorem begun_of_sources (linkless : before.root.Linkless) (ne : request.directory ≠ "")
    (ok : sources request before = .ok (catalog, prelude)) :
    Begun request before catalog prelude := by
  obtain ⟨catalog', loaded, ok⟩ := bind_eq_ok_iff.mp ok
  obtain ⟨prelude', opens, same⟩ := bind_eq_ok_iff.mp ok
  cases same
  rw [mapError_eq_ok_iff] at loaded
  obtain ⟨document, found, -⟩ := Catalog.load_eq_ok_iff.mp loaded
  obtain ⟨text, read⟩ := Specification.exists_text_of_load found
  obtain ⟨location, mode, content, located, -⟩ := FileTree.text_eq_ok_iff.mp read
  obtain ⟨directory, -, named, -⟩ :=
    linkless.names_of_locate (isStep_catalog.endsIn _) located
  refine ⟨linkless, named.hasDirectory_of_join isStep_catalog.plain isStep_catalog.ne_empty ne,
    ⟨directory, named⟩, loaded, ?_⟩
  revert opens
  cases request.template <;>
    simp [Option.mapM, pure, Except.pure, Functor.map, map_eq_ok_iff, mapError_eq_ok_iff]

/-- Where the headers are of the analyses whose selections were there. -/
def headerPlaces (request : Request) (before after : FileTree) (done : List Profiler) :
    Set Location :=
  {location | ∃ profiler ∈ done,
    before.hasNode (Generation.selectionPath request.directory profiler) = true ∧
    after.locate (headerPath request profiler) = .ok location}

/-- The headers of some analyses are written: for each whose selection was there the header that is
generated for it alone. Besides, nothing but directories is new. -/
structure Written (request : Request) (before after : FileTree) (done : List Profiler) : Prop where
  header : ∀ profiler ∈ done,
    before.hasNode (Generation.selectionPath request.directory profiler) = true →
    ∃ text count place mode,
      (∀ output, Generation.generate ⟨some profiler, request.directory, request.template, output⟩
          before =
        ((before.writeText output text).mapError (.unwritable output)).map (count, ·)) ∧
      after.locate (headerPath request profiler) = .ok place ∧
      after.root.get? place = some (.file mode text.toUTF8)
  grew : Grew (headerPlaces request before after done) before after

theorem exists_headerName (linkless : after.root.Linkless)
    (located : after.locate (headerPath request profiler) = .ok location) :
    ∃ directory, location = directory ++ [headerName profiler] := by
  obtain ⟨directory, same, -⟩ :=
    linkless.names_of_locate ((isStep_headerName profiler).endsIn request.output) located
  exact ⟨directory, same⟩

theorem append_singleton_ne (h : name ≠ other) (directory directory' : Location) :
    directory ++ [name] ≠ directory' ++ [other] :=
  fun same => h (List.cons.inj (List.append_inj' same rfl).2).1

namespace Written

theorem linkless (h : Written request before after done) (linkless : before.root.Linkless) :
    after.root.Linkless :=
  h.grew.linkless linkless

/-- The header of any other analysis is what it was. -/
theorem untouched (h : Written request before after done) (linkless : before.root.Linkless)
    (off : profiler ∈ done →
      before.hasNode (Generation.selectionPath request.directory profiler) = false)
    {place : Location} (located : after.locate (headerPath request profiler) = .ok place)
    (mode : Nat) (content : ByteArray) :
    after.root.get? place = some (.file mode content) ↔
      before.root.get? place = some (.file mode content) := by
  refine h.grew.get?_iff place ?_ _ rfl
  rintro ⟨profiler', mem, there, located'⟩
  obtain ⟨directory, same⟩ := exists_headerName (h.linkless linkless) located
  obtain ⟨directory', same'⟩ := exists_headerName (h.linkless linkless) located'
  by_cases different : profiler = profiler'
  · subst different
    cases (off mem).symm.trans there
  · exact append_singleton_ne (fun name => different (headerName_injective name)) _ _
      (same.symm.trans same')

end Written

/-- A selection that can be read while headers are written was there at first. -/
theorem Begun.text_of_written (begun : Begun request before catalog prelude)
    (written : Written request before tree done)
    (read : tree.text (Generation.selectionPath request.directory profiler) = .ok text) :
    before.text (Generation.selectionPath request.directory profiler) = .ok text := by
  obtain ⟨location, mode, content, located, found, readable, decoded⟩ :=
    FileTree.text_eq_ok_iff.mp read
  have linkless := written.linkless begun.linkless
  have isStep := isStep_eventsFile profiler
  obtain ⟨directory, rfl, named, checked⟩ :=
    linkless.names_of_locate (isStep.endsIn request.directory) located
  -- Both paths go through the directory of specifications, where the catalog was at first.
  obtain ⟨directory', there⟩ := begun.named
  obtain ⟨fits, -⟩ := FileTree.names_iff.mp named
  have named' := there.join_of_join isStep_catalog.plain isStep_catalog.ne_empty isStep.plain
    isStep.ne_empty isStep.ne_dot isStep.ne_dots fits
  cases (written.grew.within.names named').symm.trans named
  have found' : before.root.get? (directory ++ [profiler.eventsFile]) =
      some (.file mode content) := by
    refine (written.grew.get?_iff _ ?_ _ rfl).mp found
    rintro ⟨profiler', -, -, located'⟩
    obtain ⟨_, same⟩ := exists_headerName linkless located'
    exact append_singleton_ne (eventsFile_ne_headerName profiler profiler') _ _ same
  refine FileTree.text_eq_ok_iff.mpr ⟨_, mode, content, ?_, found', readable, decoded⟩
  rw [Generation.selectionPath, named'.locate_eq checked (fun target => begun.linkless _ target),
    FileTree.entry?, found']
  rfl

/-- What is declared for an analysis while headers are written is what is generated for it alone. -/
theorem Begun.generate_eq (begun : Begun request before catalog prelude)
    (written : Written request before tree done) {made : List Declaration}
    (declared : declarations request catalog profiler tree = .ok made) (output : Path) :
    Generation.generate ⟨some profiler, request.directory, request.template, output⟩ before =
      ((before.writeText output (Header.render prelude made)).mapError (.unwritable output)).map
        (made.length, ·) := by
  obtain ⟨selection, loaded, declared⟩ := bind_eq_ok_iff.mp declared
  rw [mapError_eq_ok_iff] at loaded declared
  have header : Generation.header ⟨some profiler, request.directory, request.template, output⟩
      before = .ok (Header.render prelude made, made.length) := by
    refine Generation.header_eq_ok_iff.mpr ⟨catalog, some selection, made, prelude, ?_, rfl, rfl⟩
    refine ⟨begun.isThere, begun.loaded, mapM_some_eq_ok_iff.mpr ⟨selection, ?_, rfl⟩, declared,
      begun.opens⟩
    exact Selection.load_of_text (fun text read => begun.text_of_written written read) loaded
  rw [Generation.generate, header]
  change ((before.writeText output (Header.render prelude made)).mapError
    (Generation.Fault.unwritable output) >>= fun after => Except.ok (made.length, after)) = _
  cases before.writeText output (Header.render prelude made) <;> rfl

/-- What is declared for an analysis while headers are written had its selection at first. -/
theorem Begun.hasNode_of_declared (begun : Begun request before catalog prelude)
    (written : Written request before tree done) {made : List Declaration}
    (declared : declarations request catalog profiler tree = .ok made) :
    before.hasNode (Generation.selectionPath request.directory profiler) = true := by
  obtain ⟨selection, loaded, -⟩ := bind_eq_ok_iff.mp declared
  rw [mapError_eq_ok_iff] at loaded
  obtain ⟨document, loaded, -⟩ := Selection.load_eq_ok_iff.mp loaded
  obtain ⟨text, read⟩ := Specification.exists_text_of_load loaded
  exact FileTree.hasNode_of_text (begun.text_of_written written read)

/-- An analysis without a selection now had none at first, so that there is nothing to be written. -/
theorem Written.skip (h : Written request before tree done)
    (missing : tree.hasNode (Generation.selectionPath request.directory profiler) = false) :
    Written request before tree (done ++ [profiler]) := by
  refine ⟨fun other mem there => ?_, h.grew.mono ?_⟩
  · rcases List.mem_append.mp mem with mem | mem
    · exact h.header other mem there
    · obtain rfl := List.mem_singleton.mp mem
      cases missing.symm.trans (h.grew.within.hasNode there)
  · rintro location ⟨other, mem, there, located⟩
    exact ⟨other, List.mem_append_left _ mem, there, located⟩

/-- The header of one more analysis leaves those that are written as they are. -/
theorem Written.add (h : Written request before tree done)
    (begun : Begun request before catalog prelude) (new : profiler ∉ done) {made : List Declaration}
    (declared : declarations request catalog profiler tree = .ok made)
    (write : tree.writeText (headerPath request profiler) (Header.render prelude made) =
      .ok after) : Written request before after (done ++ [profiler]) := by
  obtain ⟨parent, name, -, wrote, located, -⟩ := FileTree.exists_wrote write
  obtain ⟨directory, place⟩ :=
    exists_headerName (wrote.grew.linkless (h.linkless begun.linkless)) located
  refine ⟨fun other mem there => ?_, (h.grew.mono ?_).trans (wrote.grew.mono ?_)⟩
  · rcases List.mem_append.mp mem with mem | mem
    · obtain ⟨text, count, place', mode, generated, located', file⟩ := h.header other mem there
      refine ⟨text, count, place', mode, generated, wrote.within.locate located', ?_⟩
      refine (wrote.get?_iff rfl ?_).mpr file
      obtain ⟨directory', same⟩ := exists_headerName (h.linkless begun.linkless) located'
      rw [same, place]
      refine append_singleton_ne (fun name => ?_) _ _
      rw [headerName_injective name] at mem
      exact new mem
    · obtain rfl := List.mem_singleton.mp mem
      obtain ⟨mode, file⟩ := wrote.file
      exact ⟨_, made.length, _, mode, begun.generate_eq h declared, located, file⟩
  · rintro location ⟨other, mem, there, located⟩
    exact ⟨other, List.mem_append_left _ mem, there, wrote.within.locate located⟩
  · rintro location rfl
    exact ⟨profiler, List.mem_append_right _ List.mem_cons_self,
      begun.hasNode_of_declared h declared, located⟩

/-- What can come of one analysis: nothing is done if its selection is not there, its header is
written, or a fault is found and nothing is written. -/
inductive Passed (request : Request) (catalog : Catalog) (prelude : Option String)
    (profiler : Profiler) (progress next : Progress) : Prop where
  | skipped
      (missing : progress.tree.hasNode (Generation.selectionPath request.directory profiler) = false)
      (noFault : next.fault = progress.fault) (same : next.tree = progress.tree)
  | wrote {made : List Declaration}
      (declared : declarations request catalog profiler progress.tree = .ok made)
      (noFault : next.fault = progress.fault)
      (write : progress.tree.writeText (headerPath request profiler) (Header.render prelude made) =
        .ok next.tree)
  | failed {fault : Fault} (found : next.fault = some fault) (same : next.tree = progress.tree)

theorem passed_writeOne (request : Request) (catalog : Catalog) (prelude : Option String)
    (profiler : Profiler) (progress : Progress) :
    Passed request catalog prelude profiler progress
      (writeOne request catalog prelude profiler progress) := by
  by_cases there :
      progress.tree.hasNode (Generation.selectionPath request.directory profiler) = true
  · rw [writeOne, if_pos there]
    cases declared : declarations request catalog profiler progress.tree with
    | error fault => exact .failed rfl rfl
    | ok made =>
      cases written : progress.tree.writeText (headerPath request profiler)
          (Header.render prelude made) with
      | error cause =>
        refine @Passed.failed _ _ _ _ _ _ (.unwritable (headerPath request profiler) cause) ?_ ?_ <;>
          simp [written, Except.mapError, bind, Except.bind]
      | ok after =>
        refine .wrote declared ?_ ?_ <;>
          simp [written, Except.mapError, bind, Except.bind, pure, Except.pure]
  · rw [writeOne, if_neg there]
    exact .skipped (Bool.not_eq_true _ ▸ there) rfl rfl

/-- The headers that are written go on with that of one more analysis, or a fault is found and they
stay as they are. -/
theorem written_of_writeOne (begun : Begun request before catalog prelude)
    (written : Written request before progress.tree done) (new : profiler ∉ done)
    (fine : progress.fault = none) :
    let next := writeOne request catalog prelude profiler progress
    (next.fault = none ∧ Written request before next.tree (done ++ [profiler])) ∨
    ∃ fault, next.fault = some fault ∧ next.tree = progress.tree := by
  cases passed_writeOne request catalog prelude profiler progress with
  | skipped missing noFault same => exact .inl ⟨noFault.trans fine, same ▸ written.skip missing⟩
  | wrote declared noFault write =>
    exact .inl ⟨noFault.trans fine, written.add begun new declared write⟩
  | failed found same => exact .inr ⟨_, found, same⟩

/-- The loop passes some analyses, and stops at the first fault or when none is left. -/
theorem writeEach_cases (begun : Begun request before catalog prelude)
    (written : Written request before progress.tree done) (fine : progress.fault = none)
    (distinct : (done ++ rest).Nodup) :
    ∃ made left, rest = made ++ left ∧
      let reached := writeEach request catalog prelude made progress
      reached.fault = none ∧ Written request before reached.tree (done ++ made) ∧
      (left = [] ∧ writeEach request catalog prelude rest progress = reached ∨
        ∃ failing later fault, left = failing :: later ∧
          writeEach request catalog prelude rest progress =
            writeOne request catalog prelude failing reached ∧
          (writeOne request catalog prelude failing reached).fault = some fault ∧
          (writeOne request catalog prelude failing reached).tree = reached.tree) := by
  induction rest generalizing done progress with
  | nil =>
    refine ⟨[], [], rfl, fine, ?_, .inl ⟨rfl, rfl⟩⟩
    rwa [List.append_nil]
  | cons profiler rest ih =>
    have new : profiler ∉ done := fun mem =>
      (List.nodup_append.mp distinct).2.2 profiler mem profiler List.mem_cons_self rfl
    rcases written_of_writeOne begun written new fine with
      ⟨noFault, written'⟩ | ⟨fault, found, same⟩
    · have goesOn (more : List Profiler) : writeEach request catalog prelude (profiler :: more)
          progress = writeEach request catalog prelude more
            (writeOne request catalog prelude profiler progress) := by
        simp [writeEach, noFault]
      obtain ⟨made, left, shape, fine', written'', outcome⟩ :=
        ih written' noFault (by rwa [List.append_assoc])
      refine ⟨profiler :: made, left, by rw [shape, List.cons_append], ?_⟩
      rw [List.append_assoc] at written''
      simp only [goesOn]
      exact ⟨fine', written'', outcome⟩
    · refine ⟨[], profiler :: rest, rfl, fine, by rwa [List.append_nil],
        .inr ⟨profiler, rest, fault, rfl, ?_, found, same⟩⟩
      simp [writeEach, found]

/-- In a tree without links a request stops before the first header, and then nothing but directories
is new; or it goes through the analyses. If it goes through all, there are the headers of those whose
selections were there at first, each as it is generated for the analysis alone; if it stops at one,
there are the headers of those before. No other file is new or changed, and in particular no header
of another analysis. (The empty path leads nowhere, so it is no path of a directory; a command line
never gives it, by `HeaderSetLine.directory_ne_empty`.) -/
theorem generate_cases (linkless : before.root.Linkless) (named : request.directory ≠ "") :
    (∃ fault, sources request before = .error fault ∧
      generate request before = ⟨before, .empty, some fault⟩) ∨
    (∃ cause, (before.makeDirectories request.output).2 = .error cause ∧
      (generate request before).fault = some (.noOutput request.output cause) ∧
      Grew ∅ before (generate request before).tree) ∨
    ∃ catalog prelude opened done rest,
      sources request before = .ok (catalog, prelude) ∧
      before.makeDirectories request.output = (opened, .ok ()) ∧
      Profiler.all = done ++ rest ∧
      Written request before (generate request before).tree done ∧
      (∀ profiler, (profiler ∈ done →
          before.hasNode (Generation.selectionPath request.directory profiler) = false) →
        ∀ place, (generate request before).tree.locate (headerPath request profiler) = .ok place →
          ∀ mode content,
            (generate request before).tree.root.get? place = some (.file mode content) ↔
              before.root.get? place = some (.file mode content)) ∧
      (rest = [] ∧ (generate request before).fault = none ∨
        ∃ failing later fault, rest = failing :: later ∧
          (generate request before).fault = some fault ∧
          let reached := writeEach request catalog prelude done ⟨opened, .empty, none⟩
          reached.fault = none ∧
          generate request before = writeOne request catalog prelude failing reached) := by
  cases found : sources request before with
  | error fault => exact .inl ⟨fault, rfl, by delta generate; rw [found]⟩
  | ok answer =>
    obtain ⟨catalog, prelude⟩ := answer
    right
    have grew := FileTree.grew_makeDirectories before request.output
    obtain ⟨opened, made⟩ : ∃ opened, (before.makeDirectories request.output).1 = opened :=
      ⟨_, rfl⟩
    rw [made] at grew
    cases opens : (before.makeDirectories request.output).2 with
    | error cause =>
      have pair : before.makeDirectories request.output = (opened, .error cause) :=
        Prod.ext made opens
      refine .inl ⟨cause, rfl, ?_⟩
      delta generate
      simpa only [found, pair, true_and] using grew
    | ok =>
      have pair : before.makeDirectories request.output = (opened, .ok ()) := Prod.ext made opens
      have begun := begun_of_sources linkless named found
      have start : Written request before opened [] :=
        ⟨fun _ mem => absurd mem List.not_mem_nil, grew.mono (Set.empty_subset _)⟩
      have whole : generate request before =
          writeEach request catalog prelude Profiler.all ⟨opened, .empty, none⟩ := by
        delta generate
        simp only [found, pair]
      obtain ⟨done, rest, all, fine, written, outcome⟩ :=
        @writeEach_cases request before catalog prelude [] Profiler.all ⟨opened, .empty, none⟩ begun
          start rfl (by decide)
      rw [← whole] at outcome
      have tree : (generate request before).tree =
          (writeEach request catalog prelude done ⟨opened, .empty, none⟩).tree := by
        rcases outcome with ⟨-, same⟩ | ⟨failing, later, fault, -, same, -, kept⟩
        · rw [same]
        · rw [same, kept]
      rw [List.nil_append, ← tree] at written
      refine .inr ⟨catalog, prelude, opened, done, rest, rfl, pair, all, written,
        fun profiler off place located mode content =>
          written.untouched linkless off located mode content, ?_⟩
      rcases outcome with ⟨rfl, same⟩ | ⟨failing, later, fault, rfl, same, failed, -⟩
      · exact .inl ⟨rfl, by rw [same, fine]⟩
      · exact .inr ⟨failing, later, fault, rfl, by rw [same, failed], fine, same⟩

/-- The selection for loaded values is right, and the one for privatization lists a parameter that
the catalog does not have. -/
def brokenTree : FileTree where
  root := .directory 0o755 [("config", .directory 0o755
    [("api.yaml", .file 0o644 "events:\n  load: \x7binstr: 32, addr: 64\x7d\n".toUTF8),
      ("LoadedValueModEvents.yaml", .file 0o644 "events:\n  load: [addr]\n".toUTF8),
      ("PrivateerProfilerEvents.yaml", .file 0o644 "events:\n  load: [size]\n".toUTF8)])]
  working := []

theorem linkless_brokenTree : brokenTree.root.Linkless := by
  refine FileTree.Node.linkless_directory ?_
  rintro _ (_ | ⟨_, ⟨⟩⟩)
  refine FileTree.Node.linkless_directory ?_
  rintro _ (_ | ⟨_, _ | ⟨_, _ | ⟨_, ⟨⟩⟩⟩⟩) <;> exact FileTree.Node.linkless_file _ _

/-- The header for loaded values is written before the fault in the selection for privatization is
found. -/
theorem generate_cases_of_broken :
    brokenTree.root.Linkless ∧ ("config" : Path) ≠ "" ∧
    (∃ done failing later, Profiler.all = done ++ failing :: later ∧
      Written ⟨"config", none, "out"⟩ brokenTree
        (generate ⟨"config", none, "out"⟩ brokenTree).tree done) ∧
    (generate ⟨"config", none, "out"⟩ brokenTree).tree.text "out/slamp_produce_lv.h" =
      .ok "#define PRODUCE_LOAD(instr, addr) produce_8_64(LOAD, addr)\n" ∧
    (generate ⟨"config", none, "out"⟩ brokenTree).fault =
      some (.badSpecification "config/PrivateerProfilerEvents.yaml"
        (.unknownParameter "load" "size")) := by
  have found : (sources ⟨"config", none, "out"⟩ brokenTree).isOk = true := by decide +kernel
  have opens : (brokenTree.makeDirectories "out").2 = .ok () := by decide +kernel
  have ⟨read, failed⟩ : (generate ⟨"config", none, "out"⟩ brokenTree).tree.text
        "out/slamp_produce_lv.h" =
        .ok "#define PRODUCE_LOAD(instr, addr) produce_8_64(LOAD, addr)\n" ∧
      (generate ⟨"config", none, "out"⟩ brokenTree).fault =
        some (.badSpecification "config/PrivateerProfilerEvents.yaml"
          (.unknownParameter "load" "size")) := by decide +kernel
  refine ⟨linkless_brokenTree, by decide, ?_, read, failed⟩
  rcases @generate_cases ⟨"config", none, "out"⟩ brokenTree linkless_brokenTree (by decide) with
    ⟨fault, unread, -⟩ | ⟨cause, unopened, -⟩ |
    ⟨_, _, _, done, rest, -, -, all, written, -, ⟨-, fine⟩ | ⟨failing, later, fault, rfl, -⟩⟩
  · rw [unread] at found
    cases found
  · cases opens.symm.trans unopened
  · cases failed.symm.trans fine
  · exact ⟨done, failing, later, all, written⟩

end ProfilingSession.HeaderSet
