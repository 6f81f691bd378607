import ApiScribe.Proofs.Compilation.Declarations

set_option autoImplicit false

namespace ApiScribe

namespace Gathered

variable {gathered : Gathered} {table : ExternalTypes} {failure : Failure}

theorem declareAll_failure {declarations : List Declaration}
    (failed : (gathered.declareAll table declarations).failure = some failure) :
    ∃ declaration fault, failure = .resource declaration fault := by
  induction declarations generalizing gathered with
  | nil => cases failed
  | cons declaration rest ih =>
    rw [declareAll] at failed
    dsimp only at failed
    split at failed
    next other here =>
      obtain ⟨fault, same⟩ := declare_failure failed
      exact ⟨declaration.name, fault, same⟩
    next => exact ih failed

theorem applyBlocks_failure (gathered : Gathered) (read : Document.FileReader)
    (base : Option String) (blocks : List Block) :
    (gathered.applyBlocks read base blocks).failure = none := by
  induction blocks generalizing gathered with
  | nil => rfl
  | cons block rest ih => exact ih _

theorem addFile_failure {read : Document.FileReader} {source : SourceFile}
    (failed : (gathered.addFile table read source).failure = some failure) :
    ∃ declaration fault, failure = .resource declaration fault := by
  rw [addFile] at failed
  dsimp only at failed
  split at failed
  next other here => exact declareAll_failure failed
  next => rw [applyBlocks_failure] at failed; cases failed

end Gathered

def Settings.inMode (settings : Settings) (strict : Bool) : Settings := { settings with strict }

def Quiet (diagnostics : List Diagnostic) : Prop := ∀ d ∈ diagnostics, d.isError = false

theorem quiet_append_iff (front back : List Diagnostic) :
    Quiet (front ++ back) ↔ Quiet front ∧ Quiet back := by
  simp [Quiet, or_imp, forall_and]

theorem strictFailure?_eq_none_iff (diagnostics : List Diagnostic) :
    strictFailure? diagnostics = none ↔ Quiet diagnostics := by
  rw [strictFailure?]
  cases errors : diagnostics.filter Diagnostic.isError with
  | nil => simpa [Quiet] using errors
  | cons first rest =>
    have error : first ∈ diagnostics.filter Diagnostic.isError := by simp [errors]
    obtain ⟨member, isError⟩ := List.mem_filter.mp error
    simp only [reduceCtorEq, false_iff]
    intro quiet
    rw [quiet first member] at isError
    cases isError

namespace Compilation

variable (settings : Settings) (read : Document.FileReader)

def recorded (run : Compilation) (source : SourceFile) : List Diagnostic :=
  let step := run.gathered.addFile settings.table read source
  step.found.map (fun d => { d with file := some source.path }) ++
    step.failure.toList.map fun failure =>
      { problem := .abandoned failure, subject := source.path, file := some source.path }

theorem addFile_lenient (run : Compilation) (source : SourceFile) :
    run.addFile (settings.inMode false) read source =
      (⟨(run.gathered.addFile settings.table read source).gathered,
        run.diagnostics ++ run.recorded settings read source⟩, none) := by
  simp only [addFile, recorded, Settings.inMode]
  cases failed : (run.gathered.addFile settings.table read source).failure with
  | none => simp
  | some failure =>
    obtain ⟨declaration, fault, rfl⟩ := Gathered.addFile_failure failed
    simp [Failure.isStructural]

theorem addFile_strict (run : Compilation) (source : SourceFile) :
    let step := run.gathered.addFile settings.table read source
    let found := step.found.map fun d => { d with file := some source.path }
    run.addFile (settings.inMode true) read source =
      (⟨step.gathered, run.diagnostics ++ found⟩, step.failure.or (strictFailure? found)) := by
  simp only [addFile, Settings.inMode]
  cases (run.gathered.addFile settings.table read source).failure with
  | none => simp
  | some failure => simp

theorem quiet_recorded_iff (run : Compilation) (source : SourceFile) :
    let step := run.gathered.addFile settings.table read source
    Quiet (run.recorded settings read source) ↔ step.failure = none ∧
      Quiet (step.found.map fun d => { d with file := some source.path }) := by
  rw [recorded, quiet_append_iff, and_comm]
  refine and_congr_left fun _ => ?_
  cases (run.gathered.addFile settings.table read source).failure with
  | none => simp [Quiet]
  | some failure => simp [Quiet, Diagnostic.isError, Problem.severity]

theorem addFile_strict_quiet {run : Compilation} {source : SourceFile}
    (quiet : Quiet (run.recorded settings read source)) :
    run.addFile (settings.inMode true) read source =
      run.addFile (settings.inMode false) read source := by
  obtain ⟨complete, silent⟩ := (quiet_recorded_iff settings read run source).mp quiet
  rw [addFile_strict, addFile_lenient, recorded]
  simp [complete, (strictFailure?_eq_none_iff _).mpr silent]

/-- How strict mode answers a file with errors: by the failure that cut the file short, if there is one,
and otherwise by the number of errors recorded for it and the text of the first. -/
def Answers (run : Compilation) (source : SourceFile) (failure : Failure) : Prop :=
  match (run.gathered.addFile settings.table read source).failure with
  | some other => failure = other ∧ ∃ declaration fault, failure = .resource declaration fault
  | none => ∃ first rest,
      (run.recorded settings read source).filter Diagnostic.isError = first :: rest ∧
      failure = .strict (first :: rest).length first.display

theorem addFile_strict_loud {run : Compilation} {source : SourceFile}
    (loud : ¬ Quiet (run.recorded settings read source)) :
    ∃ failure, (run.addFile (settings.inMode true) read source).2 = some failure ∧
      run.Answers settings read source failure ∧
      (run.addFile (settings.inMode true) read source).1.gathered =
        (run.addFile (settings.inMode false) read source).1.gathered := by
  simp only [addFile_strict, addFile_lenient, Answers]
  cases failed : (run.gathered.addFile settings.table read source).failure with
  | some failure => exact ⟨failure, by simp, ⟨rfl, Gathered.addFile_failure failed⟩, trivial⟩
  | none =>
    have same : run.recorded settings read source =
        (run.gathered.addFile settings.table read source).found.map
          fun d => { d with file := some source.path } := by
      simp [recorded, failed]
    rw [← same, Option.none_or]
    cases errors : (run.recorded settings read source).filter Diagnostic.isError with
    | nil => exact absurd (by simpa [Quiet] using errors) loud
    | cons first rest =>
      exact ⟨.strict (rest.length + 1) first.display, by simp [strictFailure?, errors],
        ⟨first, rest, rfl, rfl⟩, trivial⟩

theorem addFiles_lenient_cons (run : Compilation) (source : SourceFile) (rest : List SourceFile) :
    run.addFiles (settings.inMode false) read (source :: rest) =
      (run.addFile (settings.inMode false) read source).1.addFiles (settings.inMode false) read
        rest := by
  rw [addFiles, addFile_lenient]

theorem addFiles_lenient_append (run : Compilation) (front back : List SourceFile) :
    run.addFiles (settings.inMode false) read (front ++ back) =
      (run.addFiles (settings.inMode false) read front).1.addFiles (settings.inMode false) read
        back := by
  induction front generalizing run with
  | nil => rfl
  | cons source rest ih =>
    rw [List.cons_append, addFiles_lenient_cons, addFiles_lenient_cons, ih]

theorem addFiles_lenient_ok (run : Compilation) (files : List SourceFile) :
    (run.addFiles (settings.inMode false) read files).2 = none := by
  induction files generalizing run with
  | nil => rfl
  | cons source rest ih => rw [addFiles_lenient_cons, ih]

theorem addFiles_lenient_grows (run : Compilation) (files : List SourceFile) :
    ∃ more, (run.addFiles (settings.inMode false) read files).1.diagnostics =
      run.diagnostics ++ more := by
  induction files generalizing run with
  | nil => exact ⟨[], by simp [addFiles]⟩
  | cons source rest ih =>
    rw [addFiles_lenient_cons, addFile_lenient]
    obtain ⟨more, grown⟩ := ih ⟨(run.gathered.addFile settings.table read source).gathered,
      run.diagnostics ++ run.recorded settings read source⟩
    exact ⟨run.recorded settings read source ++ more, by rw [grown, List.append_assoc]⟩

-- The two runs are in the same state as long as the lenient one has recorded no error.
theorem addFiles_modes {run : Compilation} (quiet : Quiet run.diagnostics)
    (files : List SourceFile) :
    Quiet (run.addFiles (settings.inMode false) read files).1.diagnostics ∧
      run.addFiles (settings.inMode true) read files =
        run.addFiles (settings.inMode false) read files ∨
    ∃ front source back, files = front ++ source :: back ∧
      let before := (run.addFiles (settings.inMode false) read front).1
      Quiet before.diagnostics ∧ ¬ Quiet (before.recorded settings read source) ∧
      ∃ failure, (run.addFiles (settings.inMode true) read files).2 = some failure ∧
        before.Answers settings read source failure ∧
        (run.addFiles (settings.inMode true) read files).1.gathered =
          (before.addFile (settings.inMode false) read source).1.gathered := by
  induction files generalizing run with
  | nil => exact .inl ⟨quiet, rfl⟩
  | cons source rest ih =>
    by_cases silent : Quiet (run.recorded settings read source)
    · have step := addFile_strict_quiet settings read silent
      have lenient := addFile_lenient settings read run source
      -- Both runs go on from the state after the file.
      let after : Compilation := ⟨(run.gathered.addFile settings.table read source).gathered,
        run.diagnostics ++ run.recorded settings read source⟩
      have strict : run.addFiles (settings.inMode true) read (source :: rest) =
          after.addFiles (settings.inMode true) read rest := by
        rw [addFiles, step, lenient]
      have next : Quiet after.diagnostics := (quiet_append_iff _ _).mpr ⟨quiet, silent⟩
      rw [addFiles_lenient_cons, lenient, strict]
      rcases ih next with same | ⟨front, last, back, rfl, stops⟩
      · exact .inl same
      · refine .inr ⟨source :: front, last, back, rfl, ?_⟩
        rw [addFiles_lenient_cons, lenient]
        exact stops
    · -- The strict run ends here, and the lenient one has recorded why.
      obtain ⟨failure, failed, answers, gathered⟩ := addFile_strict_loud settings read silent
      have strict : run.addFiles (settings.inMode true) read (source :: rest) =
          run.addFile (settings.inMode true) read source := by
        rw [addFiles]
        split
        next after ok =>
          rw [ok] at failed
          cases failed
        next => rfl
      rw [strict]
      exact .inr ⟨[], source, rest, rfl, quiet, silent, failure, failed, answers, gathered⟩

theorem finish_modes {run : Compilation} (quiet : Quiet run.diagnostics) :
    run.finish (settings.inMode true) = run.finish (settings.inMode false) := by
  simp [finish, Settings.inMode, (strictFailure?_eq_none_iff _).mpr quiet, finalize]

/-- A strict run is the lenient one as long as that records no error: it succeeds exactly if the lenient
run has none, with the same state and document, and otherwise ends at the first file with an error. -/
theorem strict_follows_lenient (files : List SourceFile) :
    let lenient := ({} : Compilation).addFiles (settings.inMode false) read files
    let strict := ({} : Compilation).addFiles (settings.inMode true) read files
    lenient.2 = none ∧
    (strict.2 = none ↔ Quiet lenient.1.diagnostics) ∧
    (strict.2 = none → strict.1 = lenient.1 ∧
      strict.1.finish (settings.inMode true) = lenient.1.finish (settings.inMode false)) ∧
    ∀ failure, strict.2 = some failure →
      ∃ front source back, files = front ++ source :: back ∧
        let before := (({} : Compilation).addFiles (settings.inMode false) read front).1
        let after := (before.addFile (settings.inMode false) read source).1
        Quiet before.diagnostics ∧
        after.diagnostics = before.diagnostics ++ before.recorded settings read source ∧
        ¬ Quiet (before.recorded settings read source) ∧
        before.Answers settings read source failure ∧
        strict.1.gathered = after.gathered := by
  intro lenient strict
  have initial : Quiet ({} : Compilation).diagnostics := by simp [Quiet]
  refine ⟨addFiles_lenient_ok settings read {} files, ?_⟩
  rcases addFiles_modes settings read initial files with
    ⟨quiet, same⟩ | ⟨front, source, back, rfl, quiet, loud, failure, failed, answers, gathered⟩
  · have succeeds : strict.2 = none :=
      (congrArg Prod.snd same).trans (addFiles_lenient_ok settings read {} files)
    refine ⟨iff_of_true succeeds quiet, fun _ => ⟨congrArg Prod.fst same, ?_⟩, ?_⟩
    · rw [show strict = lenient from same]
      exact finish_modes settings quiet
    · intro failure failed
      rw [succeeds] at failed
      cases failed
  · have fails : strict.2 ≠ none := by
      rw [show strict.2 = some failure from failed]
      simp
    -- Later files add to the diagnostics and take nothing away.
    have recorded : ¬ Quiet lenient.1.diagnostics := by
      have split : lenient = _ := addFiles_lenient_append settings read {} front (source :: back)
      rw [split, addFiles_lenient_cons, addFile_lenient]
      obtain ⟨more, grown⟩ := addFiles_lenient_grows settings read _ back
      rw [grown, quiet_append_iff, quiet_append_iff]
      exact fun all => loud all.1.2
    refine ⟨iff_of_false fails recorded, fun ok => absurd ok fails, ?_⟩
    intro other otherFailed
    obtain rfl : failure = other := Option.some.inj (failed.symm.trans otherFailed)
    refine ⟨front, source, back, rfl, quiet, ?_, loud, answers, gathered⟩
    rw [addFile_lenient]

end Compilation

end ApiScribe
