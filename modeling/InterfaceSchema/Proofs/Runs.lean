import InterfaceSchema.Session

/-!
# All or nothing

What a run leaves behind. Whatever the disk holds, `compile` either fails with the disk as it was, or does all
that it was asked for: without a place to write to it prints the document, and with one it writes the same
document there and touches nothing else, **also when it writes over its own input**. The warnings stand first
on the standard error, and `inspect` gives the same ones and fails for the same schemas (`AllOrNothing`).

What becomes of the input is said of the disk and of the compile alone: the file is read and its bytes compile
(`Disk.Compiles`), or one of the two fails (`Disk.Fails`). A run is a tree of requests, so what it does is read
off from the requests it begins with: warnings change nothing (`Session.runOn_warnAnomalies`), and what follows
the reading of the input is one of two things (`Session.runOn_withCatalog_of_fails`,
`Session.runOn_withCatalog_of_compiles`).
-/

namespace InterfaceSchema

/-- **The warnings of a catalog**, one for each reference that leads nowhere, in order. -/
def Catalog.warnings (c : Catalog) : String :=
  String.join (c.anomalies.map fun a => "warning: " ++ a.text ++ "\n")

/-- What a run that failed says last. -/
def Failure.report (failure : Failure) : String := "Error: " ++ failure.diagnostic ++ "\n"

/-! ## The input -/

namespace Disk

variable {disk : Disk} {files : disk.State} {workingDirectory path : String}

/-- **The file at a path is read and compiles** to a catalog. The catalog is that of the bytes of the file, and
records the path as it is given and in full. -/
def Compiles (disk : Disk) (workingDirectory path : String) (files : disk.State) (catalog : Catalog) : Prop :=
  ∃ bytes, disk.read files path = .ok bytes ∧
    compile (.ofList bytes) ⟨path, Path.absolute workingDirectory path⟩ = .ok catalog

/-- **The file at a path cannot be read or does not compile**, and why. -/
inductive Fails (disk : Disk) (workingDirectory path : String) (files : disk.State) : Failure → Prop where
  | unread {e : FileError} (hread : disk.read files path = .error e) :
      Fails disk workingDirectory path files (.file e)
  | uncompiled {bytes : List UInt8} {e : CompileError} (hread : disk.read files path = .ok bytes)
      (hcompile : compile (.ofList bytes) ⟨path, Path.absolute workingDirectory path⟩ = .error e) :
      Fails disk workingDirectory path files (.schema e)

/-- **There is no third case.** -/
theorem fails_or_compiles (disk : Disk) (workingDirectory path : String) (files : disk.State) :
    (∃ failure, disk.Fails workingDirectory path files failure) ∨
      ∃ catalog, disk.Compiles workingDirectory path files catalog := by
  cases hread : disk.read files path with
  | error e => exact .inl ⟨_, .unread hread⟩
  | ok bytes =>
    cases hcompile : compile (.ofList bytes) ⟨path, Path.absolute workingDirectory path⟩ with
    | error e => exact .inl ⟨_, .uncompiled hread hcompile⟩
    | ok catalog => exact .inr ⟨catalog, bytes, hread, hcompile⟩

/-- A run computes the catalog of a file that compiles. -/
theorem Compiles.fileCatalog_eq {catalog : Catalog} (h : disk.Compiles workingDirectory path files catalog) :
    Session.fileCatalog workingDirectory path (disk.read files path) = .ok catalog := by
  obtain ⟨bytes, hread, hcompile⟩ := h
  rw [hread, Session.fileCatalog, hcompile]

/-- And it finds out why a file fails. -/
theorem Fails.fileCatalog_eq {failure : Failure} (h : disk.Fails workingDirectory path files failure) :
    Session.fileCatalog workingDirectory path (disk.read files path) = .error failure := by
  cases h with
  | unread hread => rw [hread, Session.fileCatalog]
  | uncompiled hread hcompile => rw [hread, Session.fileCatalog, hcompile]

/-- A file compiles to one catalog. -/
theorem Compiles.unique {catalog catalog' : Catalog} (h : disk.Compiles workingDirectory path files catalog)
    (h' : disk.Compiles workingDirectory path files catalog') : catalog' = catalog :=
  Except.ok.inj (h'.fileCatalog_eq.symm.trans h.fileCatalog_eq)

/-- It fails for one reason. -/
theorem Fails.unique {failure failure' : Failure} (h : disk.Fails workingDirectory path files failure)
    (h' : disk.Fails workingDirectory path files failure') : failure' = failure :=
  Except.error.inj (h'.fileCatalog_eq.symm.trans h.fileCatalog_eq)

/-- A file that compiles does not fail. -/
theorem Compiles.not_fails {catalog : Catalog} (h : disk.Compiles workingDirectory path files catalog)
    (failure : Failure) : ¬ disk.Fails workingDirectory path files failure := by
  intro hfails
  have heq := hfails.fileCatalog_eq.symm.trans h.fileCatalog_eq
  cases heq

end Disk

/-! ## Requests -/

namespace Session

variable {disk : Disk} {files : disk.State} {workingDirectory path : String} {next : Catalog → Session}

/-- The end of a run that failed changes nothing. -/
theorem runOn_fail (failure : Failure) (files : disk.State) :
    (fail failure).runOn disk files = ⟨1, "", failure.report, files⟩ := by
  rw [fail, runOn, runOn, Failure.report, String.append_empty]

/-- **Warnings are said first**, and nothing else comes of them. -/
theorem runOn_warnAnomalies (anomalies : List Anomaly) (next : Session) (files : disk.State) :
    (warnAnomalies anomalies next).runOn disk files =
      { next.runOn disk files with
        errors := String.join (anomalies.map fun a => "warning: " ++ a.text ++ "\n")
          ++ (next.runOn disk files).errors } := by
  induction anomalies with
  | nil => simp [warnAnomalies]
  | cons a anomalies ih =>
    have hstep : warnAnomalies (a :: anomalies) next
        = warn ("warning: " ++ a.text ++ "\n") (warnAnomalies anomalies next) := rfl
    rw [hstep, runOn, ih]
    simp [String.append_assoc]

/-- **A schema that cannot be read or compiled** ends the run, with the disk as it was. -/
theorem runOn_withCatalog_of_fails {failure : Failure}
    (h : disk.Fails workingDirectory path files failure) :
    (withCatalog workingDirectory path next).runOn disk files = ⟨1, "", failure.report, files⟩ := by
  rw [withCatalog, runOn, h.fileCatalog_eq]
  exact runOn_fail failure files

/-- **A schema that compiles** is warned of, and the run goes on with its catalog. -/
theorem runOn_withCatalog_of_compiles {catalog : Catalog}
    (h : disk.Compiles workingDirectory path files catalog) :
    (withCatalog workingDirectory path next).runOn disk files =
      { (next catalog).runOn disk files with
        errors := catalog.warnings ++ ((next catalog).runOn disk files).errors } := by
  rw [withCatalog, runOn, h.fileCatalog_eq]
  exact runOn_warnAnomalies catalog.anomalies (next catalog) files

/-! ## Commands -/

/-- The document that `compile` is asked for. -/
def document (o : CompileOptions) (catalog : Catalog) : String := catalog.render o.layout o.pretty o.keep

/-- **The ways in which `compile` ends.** -/
inductive CompileEnds (disk : Disk) (workingDirectory : String) (o : CompileOptions) (files : disk.State) :
    Outcome disk.State → Prop where
  | failed {failure : Failure}
      (hinput : disk.Fails workingDirectory o.input files failure) :
      CompileEnds disk workingDirectory o files ⟨1, "", failure.report, files⟩
  | printed {catalog : Catalog}
      (hinput : disk.Compiles workingDirectory o.input files catalog)
      (houtput : o.output = none) :
      CompileEnds disk workingDirectory o files ⟨0, document o catalog ++ "\n", catalog.warnings, files⟩
  | unwritten {catalog : Catalog} {path : String} {e : FileError}
      (hinput : disk.Compiles workingDirectory o.input files catalog)
      (houtput : o.output = some path)
      (hwrite : disk.write files path (Utf8.encode (document o catalog)) = .error e) :
      CompileEnds disk workingDirectory o files ⟨1, "", catalog.warnings ++ (Failure.file e).report, files⟩
  | written {catalog : Catalog} {path written : String} {files' : disk.State}
      (hinput : disk.Compiles workingDirectory o.input files catalog)
      (houtput : o.output = some path)
      (hwrite : disk.write files path (Utf8.encode (document o catalog)) = .ok (files', written)) :
      CompileEnds disk workingDirectory o files
        ⟨0, "output file written: " ++ written ++ "\n", catalog.warnings, files'⟩

/-- **There are no other ways.** -/
theorem compileEnds (disk : Disk) (workingDirectory : String) (o : CompileOptions) (files : disk.State) :
    CompileEnds disk workingDirectory o files ((ofCompile workingDirectory o).runOn disk files) := by
  rw [ofCompile]
  rcases disk.fails_or_compiles workingDirectory o.input files with ⟨failure, hinput⟩ | ⟨catalog, hinput⟩
  · rw [runOn_withCatalog_of_fails hinput]
    exact .failed hinput
  · rw [runOn_withCatalog_of_compiles hinput]
    cases houtput : o.output with
    | none =>
      simp only [runOn, String.append_empty]
      exact .printed hinput houtput
    | some path =>
      cases hwrite : disk.write files path (Utf8.encode (document o catalog)) with
      | error e =>
        rw [document] at hwrite
        simp only [runOn, hwrite, runOn_fail]
        exact .unwritten hinput houtput hwrite
      | ok done =>
        rw [document] at hwrite
        simp only [runOn, hwrite, String.append_empty]
        exact .written hinput houtput hwrite

namespace CompileEnds

variable {o : CompileOptions} {outcome : Outcome disk.State}

/-- A run succeeds or fails. -/
theorem code_eq (h : CompileEnds disk workingDirectory o files outcome) :
    outcome.code = 0 ∨ outcome.code = 1 := by
  cases h with
  | failed | unwritten => exact .inr rfl
  | printed | written => exact .inl rfl

/-- **When a run fails**: its input cannot be compiled, or its output cannot be written. -/
theorem code_eq_one_iff (h : CompileEnds disk workingDirectory o files outcome) :
    outcome.code = 1 ↔
      (∃ failure, disk.Fails workingDirectory o.input files failure) ∨
        ∃ catalog path e, disk.Compiles workingDirectory o.input files catalog ∧
          o.output = some path ∧ disk.write files path (Utf8.encode (document o catalog)) = .error e := by
  cases h with
  | failed hinput => exact ⟨fun _ => .inl ⟨_, hinput⟩, fun _ => rfl⟩
  | printed hinput houtput =>
    refine iff_of_false Nat.zero_ne_one ?_
    rintro (⟨failure, hfails⟩ | ⟨_, path, _, -, hpath, -⟩)
    · exact hinput.not_fails failure hfails
    · cases houtput.symm.trans hpath
  | unwritten hinput houtput hwrite => exact ⟨fun _ => .inr ⟨_, _, _, hinput, houtput, hwrite⟩, fun _ => rfl⟩
  | written hinput houtput hwrite =>
    refine iff_of_false Nat.zero_ne_one ?_
    rintro (⟨failure, hfails⟩ | ⟨_, path, _, hinput', hpath, hwrite'⟩)
    · exact hinput.not_fails failure hfails
    · cases hinput.unique hinput'
      cases houtput.symm.trans hpath
      cases hwrite.symm.trans hwrite'

/-- A run that fails changes nothing. -/
theorem files_eq (h : CompileEnds disk workingDirectory o files outcome) (hcode : outcome.code = 1) :
    outcome.files = files := by
  cases h with
  | failed | unwritten | printed => rfl
  | written => cases hcode

/-- A run that succeeds without a place to write to has printed the document. -/
theorem prints (h : CompileEnds disk workingDirectory o files outcome) (hcode : outcome.code = 0)
    (hnone : o.output = none) :
    ∃ catalog, disk.Compiles workingDirectory o.input files catalog ∧
      outcome.output = document o catalog ++ "\n" ∧ outcome.files = files := by
  cases h with
  | failed | unwritten => cases hcode
  | printed hinput => exact ⟨_, hinput, rfl, rfl⟩
  | written _ houtput => cases houtput.symm.trans hnone

/-- **A run that succeeds with a place to write to has put the document there**, and nothing elsewhere. -/
theorem replaces (h : CompileEnds disk workingDirectory o files outcome) (hcode : outcome.code = 0)
    {path : String} (hpath : o.output = some path) :
    ∃ catalog location, disk.Compiles workingDirectory o.input files catalog ∧
      disk.locate? files path = some location ∧ disk.locate? outcome.files path = some location ∧
      disk.entry? outcome.files location = some (.file (Utf8.encode (document o catalog))) ∧
      ∀ other, other ≠ location → disk.entry? outcome.files other = disk.entry? files other := by
  cases h with
  | failed | unwritten => cases hcode
  | printed _ houtput => cases houtput.symm.trans hpath
  | written hinput houtput hwrite =>
    cases houtput.symm.trans hpath
    obtain ⟨location, hbefore, hafter, hentry, hothers⟩ := disk.write_ok hwrite
    exact ⟨_, location, hinput, hbefore, hafter, hentry, hothers⟩

/-- **Of a schema that compiles the warnings are said first.** -/
theorem errors_eq (h : CompileEnds disk workingDirectory o files outcome) {catalog : Catalog}
    (hok : disk.Compiles workingDirectory o.input files catalog) :
    outcome.code = 0 ∧ outcome.errors = catalog.warnings ∨
      outcome.code = 1 ∧ ∃ e, outcome.errors = catalog.warnings ++ (Failure.file e).report := by
  cases h with
  | failed hinput => exact absurd hinput (hok.not_fails _)
  | printed hinput | written hinput =>
    cases hok.unique hinput
    exact .inl ⟨rfl, rfl⟩
  | unwritten hinput =>
    cases hok.unique hinput
    exact .inr ⟨rfl, _, rfl⟩

/-- Of one that does not, why. -/
theorem errors_eq_report (h : CompileEnds disk workingDirectory o files outcome) {failure : Failure}
    (hfails : disk.Fails workingDirectory o.input files failure) :
    outcome.errors = failure.report := by
  cases h with
  | failed hinput =>
    cases hfails.unique hinput
    rfl
  | printed hinput | unwritten hinput | written hinput => exact absurd hfails (hinput.not_fails _)

end CompileEnds

/-- **What `inspect` makes of a schema that compiles.** -/
theorem runOn_ofInspect_of_compiles {catalog : Catalog}
    (h : disk.Compiles workingDirectory path files catalog) :
    (ofInspect workingDirectory path).runOn disk files = ⟨0, summary catalog, catalog.warnings, files⟩ := by
  rw [ofInspect, runOn_withCatalog_of_compiles h]
  simp only [runOn, String.append_empty]

/-- **What `inspect` makes of one that does not.** -/
theorem runOn_ofInspect_of_fails {failure : Failure}
    (h : disk.Fails workingDirectory path files failure) :
    (ofInspect workingDirectory path).runOn disk files = ⟨1, "", failure.report, files⟩ :=
  runOn_withCatalog_of_fails h

/-- **What `compile` leaves behind**, beside what `inspect` makes of the same schema. -/
structure AllOrNothing (disk : Disk) (workingDirectory : String) (o : CompileOptions) (files : disk.State)
    (compiled inspected : Outcome disk.State) : Prop where
  /-- A run fails just when its input cannot be read or compiled, or its output cannot be written, … -/
  failed_iff : compiled.code = 1 ↔
    (∃ failure, disk.Fails workingDirectory o.input files failure) ∨
      ∃ catalog path e, disk.Compiles workingDirectory o.input files catalog ∧
        o.output = some path ∧ disk.write files path (Utf8.encode (document o catalog)) = .error e
  /-- … and then nothing has changed. -/
  unchanged : compiled.code = 1 → compiled.files = files
  /-- A run that does not fail succeeds. -/
  code : compiled.code = 0 ∨ compiled.code = 1
  /-- Without a place to write to, the document is printed, and nothing changes. -/
  printed : compiled.code = 0 → o.output = none →
    ∃ catalog, disk.Compiles workingDirectory o.input files catalog ∧
      compiled.output = document o catalog ++ "\n" ∧ compiled.files = files
  /-- With one, the document of the schema that was read before is there afterwards, and nothing else
  changes. -/
  written : compiled.code = 0 → ∀ path, o.output = some path →
    ∃ catalog location, disk.Compiles workingDirectory o.input files catalog ∧
      disk.locate? files path = some location ∧ disk.locate? compiled.files path = some location ∧
      disk.entry? compiled.files location = some (.file (Utf8.encode (document o catalog))) ∧
      ∀ other, other ≠ location → disk.entry? compiled.files other = disk.entry? files other
  /-- Of a schema that compiles the warnings are said first, and nothing behind them but why the output
  could not be written. -/
  warned : ∀ catalog, disk.Compiles workingDirectory o.input files catalog →
    compiled.code = 0 ∧ compiled.errors = catalog.warnings ∨
      compiled.code = 1 ∧ ∃ e, compiled.errors = catalog.warnings ++ (Failure.file e).report
  /-- `inspect` gives the same warnings and changes nothing. -/
  inspected_ok : ∀ catalog, disk.Compiles workingDirectory o.input files catalog →
    inspected.code = 0 ∧ inspected.errors = catalog.warnings ∧ inspected.files = files
  /-- It fails where `compile` fails on the schema, and says the same. -/
  inspected_error : ∀ failure,
    disk.Fails workingDirectory o.input files failure →
      inspected.code = 1 ∧ inspected.errors = failure.report ∧ compiled.errors = failure.report ∧
        inspected.files = files

/-- **All or nothing**, on every disk. -/
theorem compile_allOrNothing (disk : Disk) (workingDirectory : String) {arguments arguments' : List String}
    {o : CompileOptions} (hcompile : CommandLine.command? arguments = some (.compile o))
    (hinspect : CommandLine.command? arguments' = some (.inspect o.input)) (files : disk.State) :
    AllOrNothing disk workingDirectory o files ((ofArguments workingDirectory arguments).runOn disk files)
      ((ofArguments workingDirectory arguments').runOn disk files) := by
  rw [ofArguments, hcompile, ofArguments, hinspect]
  show AllOrNothing disk workingDirectory o files ((ofCompile workingDirectory o).runOn disk files)
    ((ofInspect workingDirectory o.input).runOn disk files)
  have hends := compileEnds disk workingDirectory o files
  refine ⟨hends.code_eq_one_iff, hends.files_eq, hends.code_eq, hends.prints,
    fun hcode path => hends.replaces hcode, fun catalog => hends.errors_eq, fun catalog hok => ?_,
    fun failure hfails => ?_⟩
  · rw [runOn_ofInspect_of_compiles hok]
    exact ⟨rfl, rfl, rfl⟩
  · rw [runOn_ofInspect_of_fails hfails]
    exact ⟨rfl, rfl, hends.errors_eq_report hfails, rfl⟩

/-- A directory with two files: the schema that declares nothing, and three bytes that are no schema. -/
def twoFiles : FileSystem :=
  (FileSystem.add {} ["w", "a.bfbs"] [12, 0, 0, 0, 0x42, 0x46, 0x42, 0x53, 4, 0, 4, 0, 4, 0, 0, 0]).add
    ["w", "b.bfbs"] [1, 2, 3]

/-- A schema is compiled onto itself: the document takes its place, though it was read from there. What is no
schema, or is not there, is compiled onto it in vain. -/
theorem compile_allOrNothing_twoFiles :
    let disk := FileSystem.disk ["w"]
    let run := fun arguments => (ofArguments "/w" arguments).runOn disk twoFiles
    (∃ catalog, disk.Compiles "/w" "a.bfbs" twoFiles catalog ∧
      disk.entry? (run ["compile", "-i", "a.bfbs", "--output=./a.bfbs", "--pretty"]).files ["w", "a.bfbs"]
        = some (.file (Utf8.encode (catalog.render .byName true fun _ => true)))) ∧
    ((run ["compile", "-ib.bfbs", "-o=a.bfbs"]).code = 1 ∧
      (run ["compile", "-ib.bfbs", "-o=a.bfbs"]).files = twoFiles) ∧
    (run ["compile", "-i", "c.bfbs", "-o", "a.bfbs"]).code = 1 ∧
      (run ["compile", "-i", "c.bfbs", "-o", "a.bfbs"]).files = twoFiles := by
  intro disk run
  refine ⟨?_, ?_, ?_⟩
  · have hcompile : CommandLine.command? ["compile", "-i", "a.bfbs", "--output=./a.bfbs", "--pretty"]
        = some (.compile { input := "a.bfbs", output := some "./a.bfbs", pretty := true }) := rfl
    have hinspect : CommandLine.command? ["inspect", "-i", "a.bfbs"] = some (.inspect "a.bfbs") := rfl
    have hlaws := compile_allOrNothing disk "/w" hcompile hinspect twoFiles
    have hcode : (run ["compile", "-i", "a.bfbs", "--output=./a.bfbs", "--pretty"]).code = 0 := by
      decide +kernel
    have hlocate : disk.locate? twoFiles "./a.bfbs" = some ["w", "a.bfbs"] :=
      show (twoFiles.target ["w"] "./a.bfbs").toOption = some ["w", "a.bfbs"] by decide +kernel
    obtain ⟨catalog, location, hinput, hbefore, -, hentry, -⟩ := hlaws.written hcode "./a.bfbs" rfl
    cases hlocate.symm.trans hbefore
    exact ⟨catalog, hinput, hentry⟩
  · have hcompile : CommandLine.command? ["compile", "-ib.bfbs", "-o=a.bfbs"]
        = some (.compile { input := "b.bfbs", output := some "a.bfbs" }) := rfl
    have hinspect : CommandLine.command? ["inspect", "-i", "b.bfbs"] = some (.inspect "b.bfbs") := rfl
    have hlaws := compile_allOrNothing disk "/w" hcompile hinspect twoFiles
    have hread : disk.read twoFiles "b.bfbs" = .ok [1, 2, 3] := rfl
    have hcode := hlaws.failed_iff.mpr (.inl ⟨_, .uncompiled hread rfl⟩)
    exact ⟨hcode, hlaws.unchanged hcode⟩
  · have hcompile : CommandLine.command? ["compile", "-i", "c.bfbs", "-o", "a.bfbs"]
        = some (.compile { input := "c.bfbs", output := some "a.bfbs" }) := rfl
    have hinspect : CommandLine.command? ["inspect", "-i", "c.bfbs"] = some (.inspect "c.bfbs") := rfl
    have hlaws := compile_allOrNothing disk "/w" hcompile hinspect twoFiles
    have hread : disk.read twoFiles "c.bfbs" = .error .notFound := rfl
    have hcode := hlaws.failed_iff.mpr (.inl ⟨_, .unread hread⟩)
    exact ⟨hcode, hlaws.unchanged hcode⟩

end Session

end InterfaceSchema
