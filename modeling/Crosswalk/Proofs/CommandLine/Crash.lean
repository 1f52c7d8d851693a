import Crosswalk.Proofs.CommandLine.Run
import Crosswalk.Proofs.Pass.Verdict

/-!
# Runs that break off

A run whose input can be read and whose output can be written may still come to no good, in one of two ways. Either
it complains and returns, or it breaks off without a status, `Breaks`: the text holds a null character, or it parses
but its comments cannot be found or placed, or an expression that is to be quoted in an error or written to the output
has no text, or what is to be shown is not in the encoding of the output. `run_crash` says that there are no other
cases.
-/

namespace Crosswalk

/-! ## Failures that are not rejections -/

theorem Failure.unprintable_ne_rejected (fault : PrintFault) (e : CompileError) :
    Failure.unprintable fault ≠ .rejected e := by
  simp

/-- Declarations are not listed if one of them is not written as it should be, and the first one of these counts. -/
theorem Source.declarations_eq_error_iff {source : Source} {config : Config} {f : Failure} :
    source.declarations config = .error f ↔ ∃ before s after ds arguments keywords problem,
      source.tree.byPlace config.declarationName = before ++ s :: after ∧
      List.Forall₂ (fun s d => Declaration.read source.file s = .ok d) before ds ∧
      s = .simple s.span (.expr (.call (.name config.declarationName) arguments keywords)) ∧
      Declaration.Flaw arguments keywords problem ∧
      Declaration.failure (Declaration.locationOf source.file s)
        (.call (.name config.declarationName) arguments keywords) problem = f := by
  rw [Source.declarations, Pass.list_eq, mapM_eq_error_iff]
  constructor
  · rintro ⟨before, s, after, ds, hsplit, hbefore, hs⟩
    have hdeclaration : s.isDeclaration config.declarationName = true := by
      have hmem : s ∈ source.tree.byPlace config.declarationName := hsplit ▸ by simp
      exact (List.mem_filter.1 ((Tree.perm_byPlace _ _).mem_iff.1 hmem)).2
    obtain ⟨arguments, keywords, problem, hsimple, hflaw, hf⟩ := (Declaration.read_eq_error_iff hdeclaration).1 hs
    exact ⟨before, s, after, ds, arguments, keywords, problem, hsplit, mapM_eq_ok_iff.1 hbefore, hsimple, hflaw, hf⟩
  · rintro ⟨before, s, after, ds, arguments, keywords, problem, hsplit, hbefore, hsimple, hflaw, hf⟩
    have hdeclaration : s.isDeclaration config.declarationName = true := by
      rw [hsimple]
      simp [Stmt.isDeclaration, Expr.isName]
    exact ⟨before, s, after, ds, hsplit, mapM_eq_ok_iff.2 hbefore,
      (Declaration.read_eq_error_iff hdeclaration).2 ⟨arguments, keywords, problem, hsimple, hflaw, hf⟩⟩

namespace Declaration

/-- The failure to read a call is that the call has no text, or a rejection that quotes it. -/
theorem failure_eq_or (location : Location) (call : Expr) (problem : Problem) :
    (∃ e, failure location call problem = .rejected e) ∨
      ∃ fault, call.print = .error fault ∧ failure location call problem = .unprintable fault := by
  rw [failure]
  cases call.print with
  | ok text => exact .inl ⟨_, rfl⟩
  | error fault => exact .inr ⟨fault, rfl, rfl⟩

end Declaration

/-- A failure that quotes an expression is a rejection or lacks a text. -/
theorem Quoting.eq_or {e : Expr} {error : String → CompileError} {f : Failure} (h : Quoting e error f) :
    (∃ e, f = .rejected e) ∨ ∃ fault, f = .unprintable fault := by
  cases h with
  | text h => exact .inl ⟨_, rfl⟩
  | unprintable h => exact .inr ⟨_, rfl⟩

/-- What a source is refused for is a rejection or lacks a text. -/
theorem Pass.Refuses.eq_or {config : Config} {file : Option String} {t : Tree} {f : Failure}
    (h : Pass.Refuses config file t f) : (∃ e, f = .rejected e) ∨ ∃ fault, f = .unprintable fault := by
  cases h with
  | noTable h => exact .inl ⟨_, rfl⟩
  | badKey hseat hseed he hkey h => exact h.eq_or
  | declaration hseat hseed hpairs hsplit hbefore h =>
    cases h with
    | shape hs hflaw h => exact h.eq_or
    | mapping hs hspec hfields h => exact .inl ⟨_, rfl⟩
    | tag hs hfields h => exact .inl ⟨_, rfl⟩
    | constructor hs hfields htag h => exact .inl ⟨_, rfl⟩

namespace CommandLine

/-! ## Breaking off -/

/-- Why a run breaks off whose input can be read and whose output can be written. -/
inductive Breaks (output : Encoding) (files : Files) (o : Options) : Crash → Prop
  /-- The text has no tree, and not because of its syntax. -/
  | unreadable {code : String} {error : ReadError} (hcode : Holds files o.input code)
      (hread : Tree.Unreadable code error) (herror : ∀ e, error ≠ .rejected e) :
      Breaks output files o (.unreadable error)
  /-- The first declaration by place that is not written as it should be has no text to be quoted. -/
  | unlisted {source : Source} {before after : List Stmt} {s : Stmt} {ds : List Declaration}
      {arguments : List Expr} {keywords : List Keyword} {problem : Declaration.Problem} {fault : PrintFault}
      (hsource : Opens files o.input source) (hsink : o.sink = .list)
      (hsplit : source.tree.byPlace o.config.declarationName = before ++ s :: after)
      (hbefore : List.Forall₂ (fun s d => Declaration.read source.file s = .ok d) before ds)
      (hs : s = .simple s.span (.expr (.call (.name o.config.declarationName) arguments keywords)))
      (hflaw : Declaration.Flaw arguments keywords problem)
      (hprint : (Expr.call (.name o.config.declarationName) arguments keywords).print = .error fault) :
      Breaks output files o (.failed (.unprintable fault))
  /-- What the source is refused for has no text to be quoted. -/
  | refused {source : Source} {fault : PrintFault} (hsource : Opens files o.input source) (hsink : o.sink ≠ .list)
      (hrefuses : Pass.Refuses o.config source.file source.tree (.unprintable fault)) :
      Breaks output files o (.failed (.unprintable fault))
  /-- The rewritten source has no text. -/
  | unprinted {source : Source} {r : Pass.Result} {fault : PrintFault} (hsource : Opens files o.input source)
      (hsink : o.sink ≠ .list)
      (hrun : (Pass.run o.config source.file source.title source.tree).result = .ok r)
      (hprint : r.tree.print = .error fault) : Breaks output files o (.failed (.unprintable fault))
  /-- The line of a declaration cannot be shown. Those of the declarations before it have been. -/
  | unshown {source : Source} {ds : List Declaration} {before after : List Text} {line : Text}
      (hsource : Opens files o.input source) (hsink : o.sink = .list)
      (hread : List.Forall₂ (fun s d => Declaration.read source.file s = .ok d)
        (source.tree.byPlace o.config.declarationName) ds)
      (hlines : (ds.map fun d => Text.ofString (toString d.pos.line ++ ": ") ++ d.tag ++
        Text.ofString (" <-> " ++ d.constructor.text ++ "\n")) = before ++ line :: after)
      (hbefore : output.encodes before.flatten) (hline : ¬ output.encodes line) :
      Breaks output files o (.unencoded output before.flatten line)
  /-- The compiled text cannot be shown. -/
  | unencoded {source : Source} {text : String} (hsource : Opens files o.input source) (hsink : o.sink = .output)
      (hcompile : (source.compile o.config).result = .ok text)
      (htext : ¬ output.encodes (.ofString (text ++ "\n"))) :
      Breaks output files o (.unencoded output [] (.ofString (text ++ "\n")))

variable {output : Encoding} {files : Files} {o : Options} {bytes : List UInt8} {crash : Crash}

namespace Options

theorem loadReport_eq_error_iff {e : LoadError} : o.loadReport e = .error crash ↔
    .file .nullCharacter = e ∧ .badPath = crash ∨
      ∃ error, .source error = e ∧ (∀ e', error ≠ .rejected e') ∧ .unreadable error = crash := by
  cases e with
  | file fault => cases fault <;> simp [loadReport]
  | encoding fault => simp [loadReport]
  | source error => cases error <;> simp [loadReport]

theorem failureReport_eq_error_iff {events : List LogLine} {f : Failure} :
    o.failureReport events f = .error crash ↔ (∀ e, f ≠ .rejected e) ∧ .failed f = crash := by
  cases f <;> simp [failureReport]

end Options

section

variable {source : Source}

/-- A list has no report if the declarations cannot be read and the failure is no rejection, or if a line cannot be
shown. -/
theorem report_eq_error_iff_of_list (hsource : Opens files o.input source) (hsink : o.sink = .list) :
    o.report output (files.read o.input) = .error crash ↔
      (∃ f, source.declarations o.config = .error f ∧ (∀ e, f ≠ .rejected e) ∧ .failed f = crash) ∨
      ∃ ds, source.declarations o.config = .ok ds ∧ emit output [] (ds.map Options.listed) = .error crash := by
  cases hlist : source.declarations o.config with
  | ok ds => simp [report_of_list output hsource hsink hlist, map_eq_error]
  | error f =>
    rw [Options.report, ofContent_eq_ok_iff.2 hsource]
    simp [hsink, hlist, Options.failureReport_eq_error_iff]

/-- A compilation has no report if it comes to a failure that is no rejection, or if the text is for the output and
cannot be shown. -/
theorem report_eq_error_iff_of_compile (hsource : Opens files o.input source) (hsink : o.sink ≠ .list) :
    o.report output (files.read o.input) = .error crash ↔
      (∃ f, (source.compile o.config).result = .error f ∧ (∀ e, f ≠ .rejected e) ∧ .failed f = crash) ∨
      ∃ text, (source.compile o.config).result = .ok text ∧ o.sink = .output ∧
        emit output [] [.ofString (text ++ "\n")] = .error crash := by
  cases hcompile : (source.compile o.config).result with
  | ok text =>
    cases ho : o.sink with
    | list => exact absurd ho hsink
    | output =>
      obtain ⟨log, hreport⟩ := report_of_output output hsource ho hcompile
      simp [hreport, map_eq_error]
    | inPlace =>
      obtain ⟨log, hreport⟩ := report_of_file output hsource (.inl ⟨ho, rfl⟩) hcompile
      simp [hreport]
    | file path =>
      obtain ⟨log, hreport⟩ := report_of_file output hsource (.inr ho) hcompile
      simp [hreport]
  | error f =>
    rw [Options.report, ofContent_eq_ok_iff.2 hsource]
    simp [hsink, hcompile, Options.failureReport_eq_error_iff]

end

/-- A run that breaks off has no report. -/
theorem Breaks.report_eq (h : Breaks output files o crash) : o.report output (files.read o.input) = .error crash := by
  cases h with
  | unreadable hcode htree herror =>
    rw [Options.report, ofContent_eq_error_iff.2 (.inr (.inr ⟨_, _, hcode, Tree.read_eq_error_iff.2 htree, rfl⟩))]
    exact Options.loadReport_eq_error_iff.2 (.inr ⟨_, rfl, herror, rfl⟩)
  | unlisted hsource hsink hsplit hbefore hs hflaw hprint =>
    refine (report_eq_error_iff_of_list hsource hsink).2
      (.inl ⟨.unprintable _, ?_, Failure.unprintable_ne_rejected _, rfl⟩)
    refine Source.declarations_eq_error_iff.2 ⟨_, _, _, _, _, _, _, hsplit, hbefore, hs, hflaw, ?_⟩
    rw [Declaration.failure, hprint]
  | refused hsource hsink hrefuses =>
    have hrun := Source.compile_eq_error_iff.2 (.inl (Pass.run_eq_error_iff_refuses.2 hrefuses))
    exact (report_eq_error_iff_of_compile hsource hsink).2
      (.inl ⟨_, hrun, Failure.unprintable_ne_rejected _, rfl⟩)
  | unprinted hsource hsink hrun hprint =>
    have hcompile := Source.compile_eq_error_iff.2 (.inr ⟨_, _, hrun, hprint, rfl⟩)
    exact (report_eq_error_iff_of_compile hsource hsink).2
      (.inl ⟨_, hcompile, Failure.unprintable_ne_rejected _, rfl⟩)
  | unshown hsource hsink hread hlines hbefore hline =>
    exact (report_eq_error_iff_of_list hsource hsink).2 (.inr ⟨_, declarations_eq_ok_iff.2 hread,
      emit_eq_error_iff.2 ⟨_, _, _, hlines, hbefore, hline, rfl⟩⟩)
  | unencoded hsource hsink hcompile htext =>
    exact (report_eq_error_iff_of_compile hsource (by simp [hsink])).2 (.inr ⟨_, hcompile, hsink,
      emit_eq_error_iff.2 ⟨[], _, [], rfl, rfl, htext, rfl⟩⟩)

/-- A list that has no report breaks off. -/
theorem breaks_of_list {source : Source} (hsource : Opens files o.input source) (hsink : o.sink = .list)
    (h : o.report output (files.read o.input) = .error crash) : Breaks output files o crash := by
  rcases (report_eq_error_iff_of_list hsource hsink).1 h with ⟨f, hlist, hnot, rfl⟩ | ⟨ds, hlist, hemit⟩
  · obtain ⟨before, s, after, ds, arguments, keywords, problem, hsplit, hbefore, hs, hflaw, rfl⟩ :=
      Source.declarations_eq_error_iff.1 hlist
    rcases Declaration.failure_eq_or (Declaration.locationOf source.file s)
      (.call (.name o.config.declarationName) arguments keywords) problem with ⟨e, he⟩ | ⟨fault, hprint, hf⟩
    · exact absurd he (hnot e)
    · rw [hf]
      exact .unlisted hsource hsink hsplit hbefore hs hflaw hprint
  · obtain ⟨before, line, after, hlines, hbefore, hline, rfl⟩ := emit_eq_error_iff.1 hemit
    exact .unshown hsource hsink (declarations_eq_ok_iff.1 hlist) hlines hbefore hline

/-- A compilation that has no report breaks off. -/
theorem breaks_of_compile {source : Source} (hsource : Opens files o.input source) (hsink : o.sink ≠ .list)
    (h : o.report output (files.read o.input) = .error crash) : Breaks output files o crash := by
  rcases (report_eq_error_iff_of_compile hsource hsink).1 h with ⟨f, hcompile, hnot, rfl⟩ |
    ⟨text, hcompile, houtput, hemit⟩
  · rcases Source.compile_eq_error_iff.1 hcompile with hrun | ⟨r, fault, hrun, hprint, rfl⟩
    · have hrefuses := Pass.run_eq_error_iff_refuses.1 hrun
      rcases hrefuses.eq_or with ⟨e, rfl⟩ | ⟨fault, rfl⟩
      · exact absurd rfl (hnot e)
      · exact .refused hsource hsink hrefuses
    · exact .unprinted hsource hsink hrun hprint
  · obtain ⟨before, line, after, hlines, -, htext, rfl⟩ := emit_eq_error_iff.1 hemit
    obtain ⟨rfl, rfl, -⟩ : before = [] ∧ line = .ofString (text ++ "\n") ∧ after = [] := by
      cases before <;> simp_all
    exact .unencoded hsource houtput hcompile htext

/-- A run whose input can be read and that has no report breaks off. -/
theorem breaks_of_report (hread : files.read o.input = .ok bytes)
    (h : o.report output (files.read o.input) = .error crash) : Breaks output files o crash := by
  cases hcontent : Source.ofContent o.input (files.read o.input) with
  | error e =>
    rw [Options.report, hcontent, Options.loadReport_eq_error_iff] at h
    rcases ofContent_eq_error_iff.1 hcontent with ⟨fault, hfault, -⟩ | ⟨_, fault, -, -, rfl⟩ |
      ⟨code, error, hcode, htree, rfl⟩
    · cases hread.symm.trans hfault
    · rcases h with ⟨heq, -⟩ | ⟨_, heq, -⟩ <;> cases heq
    · obtain ⟨heq, -⟩ | ⟨_, heq, herror, rfl⟩ := h <;> cases heq
      exact .unreadable hcode (Tree.read_eq_error_iff.1 htree) herror
  | ok source =>
    have hsource := ofContent_eq_ok_iff.1 hcontent
    by_cases hsink : o.sink = .list
    · exact breaks_of_list hsource hsink h
    · exact breaks_of_compile hsource hsink h

/-! ## Complaints -/

section

variable {arguments : List String}

/-- A file that is written is the input or the one that was asked for. -/
theorem sink_of_written {report : Report} {path : Path} {text : String}
    (hreport : o.report output (files.read o.input) = .ok report) (hwritten : report.written = some (path, text)) :
    path = o.input ∨ o.sink = .file path := by
  cases reported_of_report hreport with
  | failed => cases hwritten
  | listed => cases hwritten
  | shown => cases hwritten
  | stored hsource hsink hcompile =>
    cases hwritten
    exact hsink.imp_left And.right

/-- A file that can be read has a place. -/
theorem exists_locate_of_read {path : Path} (h : files.read path = .ok bytes) :
    ∃ place, files.locate path = .ok place := by
  rw [Files.read, bind_eq_ok] at h
  obtain ⟨place, hplace, -⟩ := h
  exact ⟨place, hplace⟩

/-- A run whose input can be read and whose output can be written breaks off only where there is no report. -/
theorem run_eq_error_iff (h : Request.ofArguments arguments = .run o) (hread : files.read o.input = .ok bytes)
    (hwritable : ∀ path, o.sink = .file path → ∃ place, files.locate path = .ok place) :
    run output files arguments = .error crash ↔ Breaks output files o crash := by
  have hbreaks : o.report output (files.read o.input) = .error crash ↔ Breaks output files o crash :=
    ⟨breaks_of_report hread, Breaks.report_eq⟩
  rw [← hbreaks, run, h, bind_eq_error]
  refine or_iff_left ?_
  rintro ⟨report, hreport, hrun⟩
  split at hrun
  · cases hrun
  · rename_i path text hwritten
    obtain ⟨place, hplace⟩ : ∃ place, files.locate path = .ok place := by
      rcases sink_of_written hreport hwritten with rfl | hsink
      · exact exists_locate_of_read hread
      · exact hwritable path hsink
    obtain ⟨files', hwrite⟩ := exists_write_of_locate hplace text.toUTF8.toList
    rw [hwrite] at hrun
    cases hrun

end

namespace Sample

end Sample

end CommandLine

end Crosswalk
