import Crosswalk.CommandLine.Run
import Crosswalk.Proofs.CommandLine.Options
import Crosswalk.Proofs.Except
import Crosswalk.Proofs.Pass.Listing

/-!
# What a run leaves behind

A run that returns has either failed or delivered. It fails if its input cannot be read, cannot be parsed, or cannot
be listed or compiled, `Fails`, and then it shows nothing and changes no file, but says why in the log, `Complaint`.
What it delivers goes to one place: the list or the compiled text to the output, or the compiled text to one file,
`Delivers`. It returns with that just if the encoding of the output has all that is shown.
-/

namespace Crosswalk.CommandLine

/-! ## The input -/

/-- The text in a file, with line feeds as its only line ends. -/
inductive Holds (files : Files) (path : Path) : String → Prop
  | intro {bytes : List UInt8} {text : String} (hread : files.read path = .ok bytes)
      (hdecode : Utf8.decode bytes = .ok text) :
      Holds files path (String.ofList (Text.Lines.unified text.toList))

/-- The source in a file. It is called after the file and comes from it. -/
inductive Opens (files : Files) (path : Path) : Source → Prop
  | intro {code : String} {tree : Tree} (hcode : Holds files path code) (hread : Tree.read code = .ok tree) :
      Opens files path ⟨path.name, some path.text, code, tree, false⟩

variable {files files' : Files} {path : Path}

theorem ofContent_eq_ok_iff {source : Source} :
    Source.ofContent path (files.read path) = .ok source ↔ Opens files path source := by
  simp only [Source.ofContent, bind_eq_ok, mapError_eq_ok, Source.ofString, map_eq_ok]
  constructor
  · rintro ⟨bytes, hread, text, hdecode, tree, htree, rfl⟩
    exact .intro (.intro hread hdecode) htree
  · rintro ⟨⟨hread, hdecode⟩, htree⟩
    exact ⟨_, hread, _, hdecode, _, htree, rfl⟩

theorem ofContent_eq_error_iff {e : LoadError} :
    Source.ofContent path (files.read path) = .error e ↔
      (∃ fault, files.read path = .error fault ∧ .file fault = e) ∨
      (∃ bytes fault, files.read path = .ok bytes ∧ Utf8.decode bytes = .error fault ∧ .encoding fault = e) ∨
      ∃ code error, Holds files path code ∧ Tree.read code = .error error ∧ .source error = e := by
  simp only [Source.ofContent, bind_eq_error, mapError_eq_ok, mapError_eq_error, Source.ofString, map_eq_error]
  constructor
  · rintro (h | ⟨bytes, hread, ⟨fault, hdecode, rfl⟩ | ⟨text, hdecode, error, htree, rfl⟩⟩)
    · exact .inl h
    · exact .inr (.inl ⟨bytes, fault, hread, hdecode, rfl⟩)
    · exact .inr (.inr ⟨_, error, .intro hread hdecode, htree, rfl⟩)
  · rintro (h | ⟨bytes, fault, hread, hdecode, rfl⟩ | ⟨_, error, ⟨hread, hdecode⟩, htree, rfl⟩)
    · exact .inl h
    · exact .inr ⟨bytes, hread, .inl ⟨fault, hdecode, rfl⟩⟩
    · exact .inr ⟨_, hread, .inr ⟨_, hdecode, error, htree, rfl⟩⟩

/-! ## Files -/

theorem exists_write_of_locate {place : List String} (h : files.locate path = .ok place) (bytes : List UInt8) :
    ∃ files', files.write path bytes = .ok files' :=
  ⟨⟨files.contents.put place bytes⟩, bind_eq_ok.2 ⟨place, h, rfl⟩⟩

/-! ## Failing and delivering -/

/-- A run fails: its input is not read, or is no UTF-8, or does not parse, or its declarations are refused, be it for
the list or by the pass. -/
inductive Fails (files : Files) (o : Options) : Prop
  | unread {fault : FileFault} (hread : files.read o.input = .error fault) (hfault : fault ≠ .nullCharacter)
  | undecoded {bytes : List UInt8} {fault : Utf8.Fault} (hread : files.read o.input = .ok bytes)
      (hdecode : Utf8.decode bytes = .error fault)
  | unparsed {code : String} {error : SyntaxError} (hcode : Holds files o.input code)
      (hread : Tree.read code = .error (.rejected error))
  | unlisted {source : Source} {error : CompileError} (hsource : Opens files o.input source)
      (hsink : o.sink = .list) (hlist : source.declarations o.config = .error (.rejected error))
  | uncompiled {source : Source} {error : CompileError} (hsource : Opens files o.input source)
      (hsink : o.sink ≠ .list) (hcompile : (source.compile o.config).result = .error (.rejected error))

/-- What a run whose input can be read says when it fails. -/
inductive Complaint (files : Files) (o : Options) : Text → Prop
  | undecoded {bytes : List UInt8} {fault : Utf8.Fault} (hread : files.read o.input = .ok bytes)
      (hdecode : Utf8.decode bytes = .error fault) :
      Complaint files o (.ofString ("Could not read " ++ o.input.text ++ ": " ++ fault.message))
  | unparsed {code : String} {error : SyntaxError} (hcode : Holds files o.input code)
      (hread : Tree.Unreadable code (.rejected error)) :
      Complaint files o (.ofString ("Could not read " ++ o.input.text ++ ": " ++ error.label))
  | unlisted {source : Source} {error : CompileError} (hsource : Opens files o.input source) (hsink : o.sink = .list)
      (hlist : source.declarations o.config = .error (.rejected error)) : Complaint files o error.message
  | uncompiled {source : Source} {error : CompileError} (hsource : Opens files o.input source)
      (hsink : o.sink ≠ .list) (hcompile : (source.compile o.config).result = .error (.rejected error)) :
      Complaint files o error.message

variable {output : Encoding} {o : Options} {report : Report} {crash : Crash}

/-- Declarations are listed if all of them can be read. -/
theorem declarations_eq_ok_iff {source : Source} {config : Config} {ds : List Declaration} :
    source.declarations config = .ok ds ↔ List.Forall₂ (fun s d => Declaration.read source.file s = .ok d)
      (source.tree.byPlace config.declarationName) ds := mapM_eq_ok_iff

/-! ## Showing -/

/-- Texts are shown if the encoding has them all. -/
theorem emit_eq_ok_iff {texts : List Text} {shown result : Text} :
    emit output shown texts = .ok result ↔ output.encodes texts.flatten ∧ shown ++ texts.flatten = result := by
  induction texts generalizing shown with
  | nil => simp [emit]
  | cons text rest ih =>
    rw [emit]
    split
    · rename_i htext
      simp [ih, htext]
    · rename_i htext
      simp [htext]

/-- Of several texts the first one that the encoding does not have is not shown, and those before it are. -/
theorem emit_eq_error_iff {texts : List Text} {shown : Text} :
    emit output shown texts = .error crash ↔ ∃ before text after, texts = before ++ text :: after ∧
      output.encodes before.flatten ∧ ¬ output.encodes text ∧
      .unencoded output (shown ++ before.flatten) text = crash := by
  induction texts generalizing shown with
  | nil => simp [emit]
  | cons first rest ih =>
    rw [emit]
    split
    · rename_i hfirst
      rw [ih]
      constructor
      · rintro ⟨before, text, after, rfl, hbefore, htext, rfl⟩
        exact ⟨first :: before, text, after, rfl, by simp [hfirst, hbefore], htext, by simp⟩
      · rintro ⟨before, text, after, heq, hbefore, htext, rfl⟩
        cases before with
        | nil =>
          cases heq
          exact absurd hfirst htext
        | cons b before =>
          cases heq
          rw [List.flatten_cons, Encoding.encodes_append] at hbefore
          exact ⟨before, text, after, rfl, hbefore.2, htext, by simp⟩
    · rename_i hfirst
      constructor
      · intro h
        cases h
        exact ⟨[], first, rest, rfl, rfl, hfirst, by simp⟩
      · rintro ⟨before, text, after, heq, hbefore, htext, rfl⟩
        cases before with
        | nil =>
          cases heq
          simp
        | cons b before =>
          cases heq
          rw [List.flatten_cons, Encoding.encodes_append] at hbefore
          exact absurd hbefore.1 hfirst

/-! ## Reports -/

namespace Options

theorem loadReport_eq_ok_iff {e : LoadError} : o.loadReport e = .ok report ↔
    (∃ fault : FileFault, fault ≠ .nullCharacter ∧ .file fault = e ∧ o.unread (fault.message o.input) = report) ∨
    (∃ fault, .encoding fault = e ∧ o.unread fault.message = report) ∨
    ∃ error, .source (.rejected error) = e ∧ o.unread error.label = report := by
  cases e with
  | file fault => cases fault <;> simp [loadReport]
  | encoding fault => simp [loadReport]
  | source error => cases error <;> simp [loadReport]

theorem failureReport_eq_ok_iff {events : List LogLine} {f : Failure} : o.failureReport events f = .ok report ↔
    ∃ e, .rejected e = f ∧ o.failed events e.message = report := by
  cases f <;> simp [failureReport]

end Options

/-- The report of a run that returns is that of one that fails, of a list or of a compiled source. -/
inductive Reported (output : Encoding) (files : Files) (o : Options) : Report → Prop
  | failed {events : List LogLine} {message : Text} (h : Fails files o) :
      Reported output files o (o.failed events message)
  | listed {source : Source} {ds : List Declaration} (hsource : Opens files o.input source) (hsink : o.sink = .list)
      (hlist : source.declarations o.config = .ok ds) (hencodes : output.encodes (ds.flatMap Options.listed)) :
      Reported output files o ⟨0, ds.flatMap Options.listed, [], none⟩
  | shown {source : Source} {text : String} {log : Text} (hsource : Opens files o.input source)
      (hsink : o.sink = .output) (hcompile : (source.compile o.config).result = .ok text)
      (hencodes : output.encodes (.ofString (text ++ "\n"))) :
      Reported output files o ⟨0, .ofString (text ++ "\n"), log, none⟩
  | stored {source : Source} {text : String} {path : Path} {log : Text} (hsource : Opens files o.input source)
      (hsink : o.sink = .inPlace ∧ path = o.input ∨ o.sink = .file path)
      (hcompile : (source.compile o.config).result = .ok text) :
      Reported output files o ⟨0, [], log, some (path, text ++ "\n")⟩

section

variable {source : Source} {ds : List Declaration} {text : String}

/-- A list is shown line by line. -/
theorem report_of_list (output : Encoding) (hsource : Opens files o.input source) (hsink : o.sink = .list)
    (hlist : source.declarations o.config = .ok ds) : o.report output (files.read o.input) =
      (emit output [] (ds.map Options.listed)).map fun shown => ⟨0, shown, [], none⟩ := by
  rw [Options.report, ofContent_eq_ok_iff.2 hsource]
  simp only [hsink, hlist, if_true]

theorem report_of_compile (output : Encoding) (hsource : Opens files o.input source) (hsink : o.sink ≠ .list)
    (hcompile : (source.compile o.config).result = .ok text) :
    ∃ events, o.report output (files.read o.input) = o.compiled output events text := by
  rw [Options.report, ofContent_eq_ok_iff.2 hsource]
  simp only [hsink, hcompile, if_false]
  exact ⟨_, rfl⟩

/-- A text that is compiled for the output is shown as a whole. -/
theorem report_of_output (output : Encoding) (hsource : Opens files o.input source) (hsink : o.sink = .output)
    (hcompile : (source.compile o.config).result = .ok text) : ∃ log, o.report output (files.read o.input) =
      (emit output [] [.ofString (text ++ "\n")]).map fun shown => ⟨0, shown, log, none⟩ := by
  obtain ⟨events, hreport⟩ := report_of_compile output hsource (by simp [hsink]) hcompile
  exact ⟨o.shown events, by rw [hreport, Options.compiled, hsink]⟩

/-- A text that is compiled for a file is shown nowhere. -/
theorem report_of_file (output : Encoding) {path : Path} (hsource : Opens files o.input source)
    (hsink : o.sink = .inPlace ∧ path = o.input ∨ o.sink = .file path)
    (hcompile : (source.compile o.config).result = .ok text) :
    ∃ log, o.report output (files.read o.input) = .ok ⟨0, [], log, some (path, text ++ "\n")⟩ := by
  have hnot : o.sink ≠ .list := by rcases hsink with ⟨hsink, -⟩ | hsink <;> simp [hsink]
  obtain ⟨events, hreport⟩ := report_of_compile output hsource hnot hcompile
  refine ⟨o.shown events, ?_⟩
  rcases hsink with ⟨hsink, rfl⟩ | hsink <;> rw [hreport, Options.compiled, hsink]

end

theorem reported_of_report (h : o.report output (files.read o.input) = .ok report) :
    Reported output files o report := by
  cases hcontent : Source.ofContent o.input (files.read o.input) with
  | error e =>
    rw [Options.report, hcontent] at h
    rcases ofContent_eq_error_iff.1 hcontent with ⟨fault, hread, rfl⟩ | ⟨bytes, fault, hread, hdecode, rfl⟩ |
      ⟨code, error, hcode, hread, rfl⟩
    · obtain ⟨_, hfault, heq, rfl⟩ | ⟨_, heq, -⟩ | ⟨_, heq, -⟩ := Options.loadReport_eq_ok_iff.1 h <;> cases heq
      exact .failed (.unread hread hfault)
    · obtain ⟨_, -, heq, -⟩ | ⟨_, heq, rfl⟩ | ⟨_, heq, -⟩ := Options.loadReport_eq_ok_iff.1 h <;> cases heq
      exact .failed (.undecoded hread hdecode)
    · obtain ⟨_, -, heq, -⟩ | ⟨_, heq, -⟩ | ⟨_, heq, rfl⟩ := Options.loadReport_eq_ok_iff.1 h <;> cases heq
      exact .failed (.unparsed hcode hread)
  | ok source =>
    have hsource := ofContent_eq_ok_iff.1 hcontent
    by_cases hsink : o.sink = .list
    · cases hlist : source.declarations o.config with
      | ok ds =>
        rw [report_of_list output hsource hsink hlist, map_eq_ok] at h
        obtain ⟨_, hemit, rfl⟩ := h
        obtain ⟨hencodes, rfl⟩ := emit_eq_ok_iff.1 hemit
        exact .listed hsource hsink hlist hencodes
      | error f =>
        rw [Options.report, hcontent] at h
        simp only [hsink, hlist, if_true] at h
        obtain ⟨e, rfl, rfl⟩ := Options.failureReport_eq_ok_iff.1 h
        exact .failed (.unlisted hsource hsink hlist)
    · cases hcompile : (source.compile o.config).result with
      | error f =>
        rw [Options.report, hcontent] at h
        simp only [hsink, hcompile, if_false] at h
        obtain ⟨e, rfl, rfl⟩ := Options.failureReport_eq_ok_iff.1 h
        exact .failed (.uncompiled hsource hsink hcompile)
      | ok text =>
        cases ho : o.sink with
        | list => exact absurd ho hsink
        | output =>
          obtain ⟨log, hreport⟩ := report_of_output output hsource ho hcompile
          rw [hreport, map_eq_ok] at h
          obtain ⟨_, hemit, rfl⟩ := h
          obtain ⟨hencodes, rfl⟩ := emit_eq_ok_iff.1 hemit
          rw [List.flatten_singleton] at hencodes ⊢
          exact .shown hsource ho hcompile hencodes
        | inPlace =>
          obtain ⟨log, hreport⟩ := report_of_file output hsource (.inl ⟨ho, rfl⟩) hcompile
          rw [hreport] at h
          cases h
          exact .stored hsource (.inl ⟨ho, rfl⟩) hcompile
        | file path =>
          obtain ⟨log, hreport⟩ := report_of_file output hsource (.inr ho) hcompile
          rw [hreport] at h
          cases h
          exact .stored hsource (.inr ho) hcompile

/-- What is complained of is the report of the run. -/
theorem Complaint.report_eq {message : Text} (h : Complaint files o message) :
    ∃ events, o.report output (files.read o.input) = .ok (o.failed events message) := by
  unfold Options.report
  cases h with
  | undecoded hread hdecode =>
    rw [ofContent_eq_error_iff.2 (.inr (.inl ⟨_, _, hread, hdecode, rfl⟩))]
    exact ⟨[], rfl⟩
  | unparsed hcode htree =>
    rw [ofContent_eq_error_iff.2 (.inr (.inr ⟨_, _, hcode, Tree.read_eq_error_iff.2 htree, rfl⟩))]
    exact ⟨[], rfl⟩
  | unlisted hsource hsink hlist =>
    rw [ofContent_eq_ok_iff.2 hsource]
    simp only [hsink, hlist, if_true]
    exact ⟨_, rfl⟩
  | uncompiled hsource hsink hcompile =>
    rw [ofContent_eq_ok_iff.2 hsource]
    simp only [hsink, hcompile, if_false]
    exact ⟨_, rfl⟩

/-- A run returns once its report is there and the file is written, if there is one to write. -/
theorem run_eq_ok_iff {arguments : List String} (h : Request.ofArguments arguments = .run o) :
    run output files arguments = .ok (report, files') ↔ o.report output (files.read o.input) = .ok report ∧
      (report.written = none ∧ files = files' ∨ ∃ path text, report.written = some (path, text) ∧
        files.write path text.toUTF8.toList = .ok files') := by
  rw [run, h, bind_eq_ok]
  constructor
  · rintro ⟨report', hreport, hrun⟩
    split at hrun
    · rename_i hwritten
      cases hrun
      exact ⟨hreport, .inl ⟨hwritten, rfl⟩⟩
    · rename_i path text hwritten
      obtain ⟨after, hwrite, hrun⟩ := bind_eq_ok.1 hrun
      cases hrun
      exact ⟨hreport, .inr ⟨path, text, hwritten, mapError_eq_ok.1 hwrite⟩⟩
  · rintro ⟨hreport, ⟨hwritten, rfl⟩ | ⟨path, text, hwritten, hwrite⟩⟩
    · exact ⟨report, hreport, by rw [hwritten]; rfl⟩
    · refine ⟨report, hreport, ?_⟩
      rw [hwritten]
      exact bind_eq_ok.2 ⟨files', mapError_eq_ok.2 hwrite, rfl⟩

section

variable {arguments : List String}

end

namespace Sample

/-- A file with a seed table and no declarations. -/
def plain : Source :=
  ⟨"decls.py", some "decls.py", "A_TO_B = \x7b\x7d\n",
    [.simple ⟨1, 0, 1, 11⟩ (.assign [.name "A_TO_B"] (.dict []) ⟨1, 9⟩)], false⟩

/-- A file whose second declaration lacks a constructor. -/
def flawed : Source := { Crosswalk.Sample.flawed with name := "decls.py", file := some "decls.py" }

/-- A file with two declarations of one tag and no seed table, so that it can be listed but not compiled. -/
def unseeded : Source :=
  ⟨"decls.py", some "decls.py", "map('If', B_If)\nmap('If', m.B_Do)\n",
    [.simple ⟨1, 0, 1, 15⟩ (Crosswalk.Sample.declaration "If" (.name "B_If")),
      .simple ⟨2, 0, 2, 17⟩ (Crosswalk.Sample.declaration "If" (.attribute (.name "m") "B_Do"))], false⟩

end Sample

end Crosswalk.CommandLine
