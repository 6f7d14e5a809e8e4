import NativeExtension.CommandLine.Install
import NativeExtension.Proofs.CommandLine.Layout
import NativeExtension.Proofs.CommandLine.Pictograph
import NativeExtension.Proofs.Pipeline.Footprint

namespace NativeExtension.CommandLine

open Build Display

namespace Display

/-- A text in which nothing is changed to show it: it holds no tab, nothing that moves the cursor, and
    no name between colons that stands for a pictograph. -/
structure Plain (ps : Pictographs) (cs : List Char) : Prop where
  no_tab : '\t' ∉ cs
  no_move : ∀ c ∈ cs, movesCursor c = false
  absent : ps.Absent cs

variable {ps : Pictographs}

theorem Plain.verbatim_eq {text : String} (h : Plain ps text.toList) : verbatim ps text = text := by
  refine String.toList_inj.mp ?_
  rw [verbatim, h.absent.replace_eq, shown_eq_self h.no_tab h.no_move]

/-- Of what ends a text as it is shown, nothing was changed. A name that stood for a pictograph
    would lack its colons. -/
theorem plain_of_suffix {text : String} (h : text.toList <:+ (verbatim ps text).toList) :
    Plain ps text.toList := by
  refine ⟨fun htab => tab_not_mem_shown _ (h.subset htab), fun c hc => ?_, ?_⟩
  · by_contra hmove
    exact not_mem_shown_of_movesCursor (by simpa using hmove) _ (h.subset hc)
  · refine Pictographs.absent_of_count_le ?_
    have hcount := h.sublist.count_le ':'
    rwa [verbatim, count_shown (by decide) (by decide) (by decide)] at hcount

/-- A text that is shown behind a line ends the whole exactly where nothing in it was changed. It
    cannot reach back into that line, since it would hold more line feeds than are shown. -/
theorem suffix_append_verbatim_iff {before : List Char} (hline : before.getLast? = some '\n')
    (text : String) : text.toList <:+ before ++ (verbatim ps text).toList ↔ Plain ps text.toList := by
  constructor
  · intro h
    obtain hshort | hlong := List.suffix_or_suffix_of_suffix h (List.suffix_append before _)
    · exact plain_of_suffix hshort
    obtain ⟨more, hmore⟩ := hlong
    obtain ⟨front, hfront⟩ := h
    have hback : front ++ more = before := by
      rw [← hmore, ← List.append_assoc] at hfront
      exact List.append_cancel_right hfront
    have hfeeds : (verbatim ps text).toList.count '\n' = text.toList.count '\n' := by
      rw [verbatim, count_shown (by decide) (by decide) (by decide), ps.count_newline_replace]
    have hnone : more.count '\n' = 0 := by
      rw [← hmore, List.count_append] at hfeeds
      omega
    obtain rfl : more = [] := by
      by_contra hne
      have hlast : more.getLast? = some '\n' := by
        rw [← hback, List.getLast?_append_of_ne_nil _ hne] at hline
        exact hline
      exact List.count_eq_zero.mp hnone (List.mem_of_getLast? hlast)
    rw [List.nil_append] at hmore
    exact plain_of_suffix ⟨[], hmore.symm⟩
  · intro h
    rw [h.verbatim_eq]
    exact List.suffix_append _ _

end Display

theorem getLast?_failureLine (ps : Pictographs) (stage text : String) :
    (failureLine ps stage text).toList.getLast? = some '\n' := by
  simp [failureLine]

theorem report_stderr (ps : Pictographs) {e : BuildError} (hsaid : e.diagnostics ≠ "") :
    (report ps e).stderr = failureLine ps e.stage e.message ++ verbatim ps e.diagnostics := by
  simp [report, hsaid]

/-- The command line gets as far as building, and that ends with an error of the build. -/
def BuildFails (runner : Command.Runner) (env : Environment) (args : List String) (s : BuildState)
    (e : BuildError) (s' : BuildState) : Prop :=
  env.fault? = none ∧ ∃ options settings, parse args = .ok (.install options) ∧
    Settings.ofEnvironment env = .ok settings ∧
    Ends (buildWith runner options settings) s (.error (.build e)) s'

theorem BuildFails.ends_runWith {runner : Command.Runner} {env : Environment} {args : List String}
    {s s' : BuildState} {e : BuildError} (h : BuildFails runner env args s e s')
    (ps : Pictographs) : Ends (runWith ps runner env args) s (.ok (report ps e)) s' := by
  obtain ⟨hfault, options, settings, hargs, hsettings, hbuild⟩ := h
  have hinstall : Ends (install ps runner env options) s (.ok (report ps e)) s' := by
    unfold install
    rw [hsettings]
    refine ends_tryCatch_iff.mpr (.inr ⟨.build e, s', ?_, ends_pure_iff.mpr ⟨rfl, rfl⟩⟩)
    exact ends_bind_iff.mpr (.inl ⟨_, hbuild, rfl⟩)
  unfold runWith
  rw [hfault, hargs]
  exact hinstall

/-- What an external tool said about an error is the end of what the command line prints exactly where
    nothing in it is changed to show it, whatever was printed before and whichever pictographs
    have names. A place such as `:100:` can be such a name. -/
theorem runWith_shows_diagnostics {runner : Command.Runner} {env : Environment}
    {args : List String} {s s' : BuildState} {e : BuildError}
    (h : BuildFails runner env args s e s') (hsaid : e.diagnostics ≠ "") (ps : Pictographs) :
    ∃ printed, Ends (runWith ps runner env args) s (.ok printed) s' ∧ printed.exit = 1 ∧
      printed.stdout = "" ∧
      printed.stderr = failureLine ps e.stage e.message ++ verbatim ps e.diagnostics ∧
      ∀ logged : String, e.diagnostics.toList <:+ (logged ++ printed.stderr).toList ↔
        Plain ps e.diagnostics.toList := by
  refine ⟨report ps e, h.ends_runWith ps, rfl, rfl, report_stderr ps hsaid, fun logged => ?_⟩
  have hline : (logged ++ failureLine ps e.stage e.message).toList.getLast? = some '\n' := by
    rw [String.toList_append, List.getLast?_append, getLast?_failureLine]
    rfl
  rw [report_stderr ps hsaid, ← String.append_assoc, String.toList_append]
  exact suffix_append_verbatim_iff hline e.diagnostics

/-- The tools of a host with headers in `/i`, where the compiler fails and says something. -/
def complaining (said : String) : Command.Runner := fun _ call t =>
  if call.args.head? = some "pg_config" then (.ok ⟨call.args, 0, "/i\n", ""⟩, t)
  else (.ok ⟨call.args, 1, "", said⟩, t)

/-- An environment in which no variable is set. -/
def bareEnvironment : Environment := ⟨none, none, none, none⟩

/-- The error of the project in `/p` where the compiler says something. -/
def compileError (said : String) : BuildError :=
  .tool .compile
    (Command.compile Command.defaultCompiler (.ofString "/p/target/release/postgres/foo.c")
      (.ofString "/p/target/release/postgres/foo.o") Pipeline.sampleIdentity (.ofString "/i")
      (.ofString "/p/target/release"))
    (.exited 1 said)

/-- The error with which a result of a build failed. -/
def buildError? {α : Type} : Except Failure α → Option BuildError
  | .error (.build e) => some e
  | _ => none

theorem exists_ends_buildError {α : Type} {m : Build α} {s : BuildState} {e : BuildError}
    (h : buildError? (Id.run (m.run.run s)).1 = some e) : ∃ s', Ends m s (.error (.build e)) s' := by
  obtain ⟨r, s', hends⟩ := exists_ends m s
  rw [hends] at h
  cases r with
  | ok a => cases h
  | error failure =>
    cases failure with
    | build e' =>
      obtain rfl : e' = e := Option.some.inj h
      exact ⟨s', hends⟩
    | fault fault => cases h

/-- Building the project in `/p` with these tools. -/
def complainingBuild (said : String) : Build PipelineResult :=
  buildWith (complaining said) ⟨"/p", none, none, none, none, none, false⟩
    ⟨"pg_config", "gcc", "release", none⟩

theorem exists_complaining_fails {said : String}
    (h : buildError? (Id.run ((complainingBuild said).run.run (Pipeline.sampleState ""))).1 =
      some (compileError said)) :
    ∃ s', BuildFails (complaining said) bareEnvironment ["/p"] (Pipeline.sampleState "")
      (compileError said) s' := by
  obtain ⟨s', hbuild⟩ := exists_ends_buildError h
  have hargs : parse ["/p"] = .ok (.install ⟨"/p", none, none, none, none, none, false⟩) :=
    eq_ok_of_toOption (by decide +kernel)
  have hsettings : Settings.ofEnvironment bareEnvironment =
      .ok ⟨"pg_config", "gcc", "release", none⟩ := eq_ok_of_toOption (by decide +kernel)
  exact ⟨s', by decide, _, _, hargs, hsettings, hbuild⟩

/-- The line and the column of an ordinary message are no pictographs, and it is shown as it is. -/
theorem runWith_shows_diagnostics_sample :
    let said := "foo.c:3:1: error: expected ';'\n"
    ∃ s' printed, BuildFails (complaining said) bareEnvironment ["/p"] (Pipeline.sampleState "")
        (compileError said) s' ∧
      Ends (runWith .numbers (complaining said) bareEnvironment ["/p"]) (Pipeline.sampleState "")
        (.ok printed) s' ∧
      said.toList <:+ printed.stderr.toList := by
  intro said
  obtain ⟨s', hfails⟩ : ∃ s', BuildFails (complaining said) bareEnvironment ["/p"]
      (Pipeline.sampleState "") (compileError said) s' :=
    exists_complaining_fails (by decide +kernel)
  obtain ⟨printed, hends, -, -, -, hshown⟩ :=
    runWith_shows_diagnostics hfails (by decide) .numbers
  have hstill : said.toList.all (!movesCursor ·) = true := by decide
  have hplain : Plain .numbers said.toList := ⟨by decide, by simpa using hstill, by decide⟩
  have hsuffix := (hshown "").mpr hplain
  rw [String.empty_append] at hsuffix
  exact ⟨s', printed, hfails, hends, hsuffix⟩

/-- A message about line 100 of a file is not shown as the compiler wrote it. -/
theorem runWith_alters_diagnostics :
    let said := "foo.c:100:5: error\n"
    ∃ s' printed, BuildFails (complaining said) bareEnvironment ["/p"] (Pipeline.sampleState "")
        (compileError said) s' ∧ (compileError said).diagnostics = said ∧
      Ends (runWith .numbers (complaining said) bareEnvironment ["/p"]) (Pipeline.sampleState "")
        (.ok printed) s' ∧
      ¬ said.toList <:+ printed.stderr.toList := by
  intro said
  obtain ⟨s', hfails⟩ : ∃ s', BuildFails (complaining said) bareEnvironment ["/p"]
      (Pipeline.sampleState "") (compileError said) s' :=
    exists_complaining_fails (by decide +kernel)
  have hline := getLast?_failureLine .numbers (compileError said).stage (compileError said).message
  have hpictograph : ¬ Plain .numbers said.toList := fun h => absurd h.absent (by decide)
  refine ⟨s', _, hfails, rfl, hfails.ends_runWith .numbers, fun hsuffix => hpictograph ?_⟩
  have hsaid : (compileError said).diagnostics ≠ "" := by decide
  rw [report_stderr .numbers hsaid, String.toList_append] at hsuffix
  exact (suffix_append_verbatim_iff hline said).mp hsuffix

end NativeExtension.CommandLine
