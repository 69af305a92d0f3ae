import SpecLint.Proofs.Check.Discovery
import SpecLint.Proofs.Check.Relaxation
import SpecLint.Proofs.Routine.Places

/-!
# Findings that recur

A finding is told from others by its file, its check, and the line and column where it is put. Each
file is found once, and each check reports at most one finding about a file as a whole, or one about
each of its routines, which all start elsewhere. So a finding recurs only if its check does, as it
does when a run asks for the same check repeatedly.

## Main result

`occurrences_of_check`: in a whole run, a finding occurs as often as its check is asked for.

## Proof strategy

What a check reports does not depend on the checks before it, so checks in a row report what each of
them reports alone. Over the files of a run the findings stay apart by their paths.
-/
namespace SpecLint

open SpecLint.Code

/-- What tells a finding from others: its file, its check and where it is put. -/
structure Mark where
  path : String
  source : String
  line : Int
  column : Option Int
  deriving DecidableEq, Repr

def Diagnostic.mark (diagnostic : Diagnostic) : Mark :=
  ⟨diagnostic.path, diagnostic.source, diagnostic.line, diagnostic.column⟩

/-- How many findings have a mark. -/
def occurrences (found : List Diagnostic) (mark : Mark) : Nat :=
  (found.map Diagnostic.mark).count mark

theorem occurrences_append (front back : List Diagnostic) (mark : Mark) :
    occurrences (front ++ back) mark = occurrences front mark + occurrences back mark := by
  rw [occurrences, List.map_append, List.count_append]
  rfl

theorem occurrences_eq_zero {found : List Diagnostic} {mark : Mark}
    (none : ∀ diagnostic ∈ found, diagnostic.mark ≠ mark) : occurrences found mark = 0 := by
  rw [occurrences, List.count_eq_zero, List.mem_map]
  rintro ⟨diagnostic, member, same⟩
  exact none diagnostic member same

theorem occurrences_pos {found : List Diagnostic} {diagnostic : Diagnostic}
    (member : diagnostic ∈ found) : 0 < occurrences found diagnostic.mark :=
  List.count_pos_iff.mpr (List.mem_map_of_mem member)

namespace Check

open SpecLint.Routine
open SpecLint.Code.Concrete (construct token)

/-! ### One check of a file -/

/-- The mark of what a check finds at a place; without a place it is put at the start. -/
def markAt (path : String) (kind : CheckKind) : Option (Nat × Nat) → Mark
  | some (line, column) => ⟨path, kind.id, line, some column⟩
  | none => ⟨path, kind.id, 1, some 0⟩

theorem mark_atLocation (path : String) (kind : CheckKind) (code message : String)
    (loc : Option Location) (details : List (String × Int)) :
    (Diagnostic.atLocation path kind.id code message loc details).mark =
      markAt path kind (loc.map Location.start) := by
  cases loc <;> rfl

theorem markAt_injective {path : String} {kind : CheckKind} {left right : Nat × Nat}
    (same : markAt path kind (some left) = markAt path kind (some right)) : left = right := by
  simp only [markAt, Mark.mk.injEq, Int.natCast_inj, Option.some.injEq, true_and] at same
  exact Prod.ext same.1 same.2

theorem path_markAt (path : String) (kind : CheckKind) (place : Option (Nat × Nat)) :
    (markAt path kind place).path = path := by
  cases place <;> rfl

theorem source_markAt (path : String) (kind : CheckKind) (place : Option (Nat × Nat)) :
    (markAt path kind place).source = kind.id := by
  cases place <;> rfl

variable {context : Context} {kind : CheckKind}

theorem mark_of_objection {skips : Bool} {subject : Subject} {diagnostic : Diagnostic}
    (objected : objection context skips subject kind = some diagnostic) :
    diagnostic.mark =
      markAt context.path.toString kind (subject.routine.loc.map Location.start) := by
  cases kind with
  | fileHasSpec => cases objected
  | publicMethodHasSpec =>
    simp only [objection] at objected
    split at objected
    · cases objected
    · obtain ⟨spec, -, rfl⟩ := Option.map_eq_some_iff.mp objected
      exact mark_atLocation ..
  | sufficientContexts =>
    obtain ⟨contexts, -, short⟩ := Option.bind_eq_some_iff.mp objected
    split at short <;> cases short
    exact mark_atLocation ..

theorem mark_of_finding {routine : Routine} {diagnostic : Diagnostic}
    (said : finding kind context routine = .ok (some diagnostic)) :
    diagnostic.mark = markAt context.path.toString kind (routine.loc.map Location.start) := by
  rw [finding_eq] at said
  obtain ⟨subject, isSubject, found⟩ := exists_of_map_eq_ok said
  obtain ⟨subject, rfl, objected⟩ := Option.bind_eq_some_iff.mp found
  rw [← routine_of_subjectOf isSubject]
  exact mark_of_objection objected

/-- The routines of a file have locations, and no two of them start at one place. -/
structure Tidy (context : Context) : Prop where
  distinct : (starts (routinesOf context)).Nodup
  located : none ∉ starts (routinesOf context)

theorem tidy_of_orderly {grammar : Grammar} {bytes : ByteArray} (orderly : Orderly (grammar bytes))
    (project : Spec.Project) (settings : Settings) (path : Path) :
    Tidy ⟨project, Parsed.ofBytes grammar path bytes, settings⟩ := by
  obtain ⟨distinct, located⟩ := nodup_starts_collect (Source.ofBytes bytes) orderly (some path)
  constructor <;> unfold routinesOf <;> split
  · exact distinct
  · exact .nil
  · exact located
  · exact List.not_mem_nil

/-- Where a check may put its findings about a file. -/
def placesOf (context : Context) : CheckKind → List (Option (Nat × Nat))
  | .fileHasSpec => [context.parsed.root.loc.map Location.start]
  | _ => starts (routinesOf context)

theorem sublist_marks_reports {found : List Diagnostic} (said : reports kind context = .ok found) :
    (found.map Diagnostic.mark).Sublist
      ((starts (routinesOf context)).map (markAt context.path.toString kind)) := by
  obtain ⟨outcomes, traversed, rfl⟩ := exists_of_map_eq_ok said
  rw [starts, List.map_map]
  exact sublist_filterMap_of_mapM (fun routine diagnostic => mark_of_finding) traversed

theorem sublist_marks_missingSpec {found : List Diagnostic}
    (said : missingSpec context = .ok found) :
    (found.map Diagnostic.mark).Sublist
      [markAt context.path.toString .fileHasSpec (context.parsed.root.loc.map Location.start)] := by
  unfold missingSpec at said
  split at said
  next =>
    obtain ⟨located, -, rfl⟩ := exists_of_map_eq_ok said
    split
    · exact List.nil_sublist _
    · cases located.head?.bind (·.base) with
      | none => exact List.nil_sublist _
      | some base =>
        rw [Option.map_some, Option.toList_some, List.map_singleton, mark_atLocation]
  next =>
    cases said
    exact List.nil_sublist _

/-- A check reports at most one finding for each of its places. -/
theorem sublist_marks_outcome {found : List Diagnostic} (said : outcome context kind = .ok found) :
    (found.map Diagnostic.mark).Sublist
      ((placesOf context kind).map (markAt context.path.toString kind)) := by
  cases kind with
  | fileHasSpec => exact sublist_marks_missingSpec said
  | publicMethodHasSpec => exact sublist_marks_reports said
  | sufficientContexts => exact sublist_marks_reports said

theorem nodup_placesOf (tidy : Tidy context) (kind : CheckKind) :
    ((placesOf context kind).map (markAt context.path.toString kind)).Nodup := by
  have perRoutine (kind : CheckKind) :
      ((starts (routinesOf context)).map (markAt context.path.toString kind)).Nodup := by
    refine List.pairwise_map.mpr (tidy.distinct.imp_of_mem ?_)
    intro left right isLeft isRight other same
    obtain ⟨left, rfl⟩ := Option.ne_none_iff_exists'.mp (ne_of_mem_of_not_mem isLeft tidy.located)
    obtain ⟨right, rfl⟩ := Option.ne_none_iff_exists'.mp (ne_of_mem_of_not_mem isRight tidy.located)
    exact other (congrArg some (markAt_injective same))
  cases kind with
  | fileHasSpec => exact List.pairwise_singleton _ _
  | publicMethodHasSpec => exact perRoutine _
  | sufficientContexts => exact perRoutine _

theorem mark_of_mem_outcome {found : List Diagnostic} (said : outcome context kind = .ok found)
    {diagnostic : Diagnostic} (member : diagnostic ∈ found) :
    diagnostic.path = context.path.toString ∧ diagnostic.source = kind.id := by
  have placed := (sublist_marks_outcome said).mem (List.mem_map_of_mem member)
  obtain ⟨place, -, same⟩ := List.mem_map.mp placed
  have marked : diagnostic.mark = markAt context.path.toString kind place := same.symm
  exact ⟨(congrArg Mark.path marked).trans (path_markAt ..),
    (congrArg Mark.source marked).trans (source_markAt ..)⟩

/-- A check reports each of its findings about a file once. -/
theorem occurrences_outcome (tidy : Tidy context) {found : List Diagnostic}
    (said : outcome context kind = .ok found) (mark : Mark) :
    occurrences found mark ≤ if kind.id = mark.source then 1 else 0 := by
  split
  next =>
    have distinct := (sublist_marks_outcome said).nodup (nodup_placesOf tidy kind)
    exact List.nodup_iff_count_le_one.mp distinct mark
  next other =>
    refine Nat.le_of_eq (occurrences_eq_zero fun diagnostic member same => other ?_)
    exact (mark_of_mem_outcome said member).2.symm.trans (congrArg Mark.source same)

/-! ### Checks in a row -/

/-- The findings of checks in a row, up to the first that fails. -/
def outcomes (context : Context) : List CheckKind → List Diagnostic × Option Spec.WildcardFault
  | [] => ([], none)
  | kind :: rest =>
    match outcome context kind with
    | .error fault => ([], some fault)
    | .ok found => (found ++ (outcomes context rest).1, (outcomes context rest).2)

/-- Checks in a row report what each of them reports alone. -/
theorem run_runChecks (kinds : List CheckKind) {knowledge : Knowledge}
    (recalls : knowledge.Recalls context) :
    ((runChecks context kinds).run knowledge).1 = outcomes context kinds := by
  induction kinds generalizing knowledge with
  | nil => rfl
  | cons kind kinds ih =>
    obtain ⟨said, kept⟩ := settles_outcome context kind knowledge recalls
    rw [runChecks, StateT.run_bind, outcomes]
    cases ran : (kind.rule context).run.run knowledge with
    | mk answer after =>
      rw [ran] at said kept
      rw [← show answer = outcome context kind from said]
      cases answer with
      | error fault => rfl
      | ok found =>
        rw [← ih kept]
        rfl

theorem mem_outcomes {kinds : List CheckKind} {diagnostic : Diagnostic}
    (member : diagnostic ∈ (outcomes context kinds).1) :
    ∃ kind found, outcome context kind = .ok found ∧ diagnostic ∈ found := by
  induction kinds with
  | nil => cases member
  | cons kind kinds ih =>
    rw [outcomes] at member
    split at member
    next => cases member
    next found said =>
      rcases List.mem_append.mp member with here | later
      · exact ⟨kind, found, said, here⟩
      · exact ih later

theorem occurrences_outcomes_le (tidy : Tidy context) (kinds : List CheckKind) (mark : Mark) :
    occurrences (outcomes context kinds).1 mark ≤ (kinds.map CheckKind.id).count mark.source := by
  induction kinds with
  | nil => exact Nat.le_refl 0
  | cons kind kinds ih =>
    rw [outcomes, List.map_cons, List.count_cons]
    split
    next => exact Nat.zero_le _
    next found said =>
      have here := occurrences_outcome tidy said mark
      rw [occurrences_append, Nat.add_comm]
      refine Nat.add_le_add ih (Nat.le_trans here (Nat.le_of_eq ?_))
      simp

theorem id_injective : Function.Injective CheckKind.id := by
  intro left right same
  cases left <;> cases right <;> first | rfl | (revert same; decide)

/-- Unless a check fails, a finding occurs as often as its check. -/
theorem occurrences_outcomes (tidy : Tidy context) {kinds : List CheckKind}
    (finished : (outcomes context kinds).2 = none) {diagnostic : Diagnostic}
    (member : diagnostic ∈ (outcomes context kinds).1) :
    occurrences (outcomes context kinds).1 diagnostic.mark =
      (kinds.map CheckKind.id).count diagnostic.source := by
  obtain ⟨kind, found, said, isFound⟩ := mem_outcomes member
  have source := (mark_of_mem_outcome said isFound).2
  have once : occurrences found diagnostic.mark = 1 := by
    have atMost := occurrences_outcome tidy said diagnostic.mark
    rw [show diagnostic.mark.source = kind.id from source, if_pos rfl] at atMost
    have atLeast := occurrences_pos isFound
    omega
  clear member
  induction kinds with
  | nil => rfl
  | cons first kinds ih =>
    rw [outcomes] at finished ⊢
    cases firstSaid : outcome context first with
    | error fault => simp [firstSaid] at finished
    | ok firstFound =>
      simp only [firstSaid] at finished ⊢
      rw [occurrences_append, ih finished, List.map_cons, List.count_cons, source, Nat.add_comm]
      congr 1
      by_cases same : first = kind
      · subst same
        obtain rfl := Except.ok.inj (said.symm.trans firstSaid)
        simp [once]
      · have other : first.id ≠ kind.id := fun equal => same (id_injective equal)
        have none := occurrences_outcome tidy firstSaid diagnostic.mark
        rw [show diagnostic.mark.source = kind.id from source, if_neg other] at none
        simp [Nat.le_zero.mp none, other]

/-! ### Files -/

/-- How often findings occur in the result of a file that some checks were asked for. -/
structure Recurs (checks : List CheckKind) (path : Path) (file : FileResult) : Prop where
  path : ∀ diagnostic ∈ file.diagnostics, diagnostic.path = path.toString
  atMost : ∀ mark, occurrences file.diagnostics mark ≤ (checks.map CheckKind.id).count mark.source
  finished : file.status ≠ .failed → ∀ diagnostic ∈ file.diagnostics,
    occurrences file.diagnostics diagnostic.mark =
      (checks.map CheckKind.id).count diagnostic.source

theorem recurs_of_silent (checks : List CheckKind) (path : Path) {file : FileResult}
    (silent : file.diagnostics = []) : Recurs checks path file := by
  constructor
  · simp [silent]
  · intro mark
    rw [silent]
    exact Nat.zero_le _
  · simp [silent]

/-- A file is reported with what its checks report. -/
theorem result_analyse (project : Spec.Project) (settings : Settings) (checks : List CheckKind)
    (parsed : Parsed) :
    (analyse project settings checks parsed).1 =
      fileResult parsed.path checks (outcomes ⟨project, parsed, settings⟩ checks).1
        ((outcomes ⟨project, parsed, settings⟩ checks).2.map .wildcard) := by
  rw [← run_runChecks checks (Knowledge.recalls_empty _)]
  rfl

theorem diagnostics_fileResult (path : Path) (checks : List CheckKind) (found : List Diagnostic)
    (fault : Option FileFault) : (fileResult path checks found fault).diagnostics = found := by
  cases fault <;> rfl

theorem recurs_analyse {grammar : Grammar} {bytes : ByteArray}
    (orderly : Orderly (grammar bytes)) (project : Spec.Project) (settings : Settings)
    (checks : List CheckKind) (path : Path) :
    Recurs checks path
      (analyse project settings checks (Parsed.ofBytes grammar path bytes)).1 := by
  have tidy := tidy_of_orderly orderly project settings path
  rw [result_analyse]
  constructor
  · intro diagnostic member
    rw [diagnostics_fileResult] at member
    obtain ⟨kind, found, said, isFound⟩ := mem_outcomes member
    exact (mark_of_mem_outcome said isFound).1
  · intro mark
    rw [diagnostics_fileResult]
    exact occurrences_outcomes_le tidy checks mark
  · intro finished diagnostic member
    rw [diagnostics_fileResult] at member ⊢
    refine occurrences_outcomes tidy (Option.eq_none_iff_forall_ne_some.mpr ?_) member
    intro fault failed
    rw [failed] at finished
    exact finished rfl

theorem recurs_checkFile {grammar : Grammar} (orderly : ∀ bytes, Orderly (grammar bytes))
    (disk : Disk) (settings : Settings) (checks : List CheckKind) (path : Path) :
    ∃ file events, checkFile (.available grammar) disk settings checks path = .ok (file, events) ∧
      Recurs checks path file := by
  unfold checkFile
  split
  next => exact ⟨_, _, rfl, recurs_of_silent checks path rfl⟩
  next =>
    split
    next => exact ⟨_, _, rfl, recurs_of_silent checks path rfl⟩
    next bytes _ => exact ⟨_, _, rfl, recurs_analyse (orderly bytes) _ settings checks path⟩

/-! ### Runs that come to a result -/

/-- A run that comes to a result, whatever was reported before. -/
def Run.Yields {α : Type} (run : Run α) (answer : α) : Prop :=
  ∀ events, (run.run.run events).1 = .ok answer

section Yields

variable {α β : Type}

theorem Run.yields_pure (answer : α) : Run.Yields (pure answer) answer := fun _ => rfl

theorem Run.yields_report (events : List Report.Event) : Run.Yields (Run.report events) ⟨⟩ :=
  fun _ => rfl

theorem Run.yields_of_ok {outcome : Except Report.Failure α} {answer : α}
    (done : outcome = .ok answer) : Run.Yields (liftM outcome : Run α) answer := by
  subst done
  exact fun _ => rfl

theorem Run.Yields.bind {run : Run α} {next : α → Run β} {answer : α} {final : β}
    (first : run.Yields answer) (second : (next answer).Yields final) :
    (run >>= next).Yields final := by
  intro events
  have unfolded : (run >>= next).run.run events =
      ExceptT.bindCont next (run.run.run events).1 (run.run.run events).2 := rfl
  rw [unfolded, first events]
  exact second _

/-- A run over items comes to a result for each of them. -/
theorem Run.yields_mapM {items : List α} {act : α → Run β} {good : α → β → Prop}
    (each : ∀ item ∈ items, ∃ answer, (act item).Yields answer ∧ good item answer) :
    ∃ answers, (items.mapM act).Yields answers ∧ List.Forall₂ good items answers := by
  induction items with
  | nil => exact ⟨[], Run.yields_pure [], .nil⟩
  | cons item items ih =>
    obtain ⟨answer, here, isGood⟩ := each item List.mem_cons_self
    obtain ⟨answers, there, areGood⟩ := ih fun other member =>
      each other (List.mem_cons_of_mem _ member)
    refine ⟨answer :: answers, ?_, .cons isGood areGood⟩
    rw [List.mapM_cons]
    exact here.bind (there.bind (Run.yields_pure _))

end Yields

theorem yields_checkFiles {grammar : Grammar} (orderly : ∀ bytes, Orderly (grammar bytes))
    (disk : Disk) (settings : Settings) (checks : List CheckKind) (files : List Path) :
    ∃ results, (checkFiles (.available grammar) disk settings checks files).Yields results ∧
      List.Forall₂ (Recurs checks) files results := by
  refine Run.yields_mapM fun path _ => ?_
  obtain ⟨file, events, done, recurs⟩ := recurs_checkFile orderly disk settings checks path
  exact ⟨file,
    (Run.yields_of_ok done).bind ((Run.yields_report events).bind (Run.yields_pure file)), recurs⟩

/-! ### Findings of several files -/

section Files

variable {checks : List CheckKind} {files : List Path} {results : List FileResult}
  (recurs : List.Forall₂ (Recurs checks) files results)
include recurs

theorem exists_path_of_mem {file : FileResult} (member : file ∈ results) :
    ∃ path ∈ files, Recurs checks path file := by
  induction recurs with
  | nil => cases member
  | cons here _ ih =>
    rcases List.mem_cons.mp member with rfl | later
    · exact ⟨_, List.mem_cons_self, here⟩
    · obtain ⟨path, isFile, found⟩ := ih later
      exact ⟨path, List.mem_cons_of_mem _ isFile, found⟩

/-- Findings of other files have other paths. -/
theorem occurrences_flatMap (distinct : (files.map Path.toString).Nodup) {file : FileResult}
    (isFile : file ∈ results) {diagnostic : Diagnostic} (member : diagnostic ∈ file.diagnostics) :
    occurrences (results.flatMap (·.diagnostics)) diagnostic.mark =
      occurrences file.diagnostics diagnostic.mark := by
  induction recurs with
  | nil => cases isFile
  | @cons path first files results here rest ih =>
    rw [List.map_cons, List.nodup_cons] at distinct
    obtain ⟨apart, distinct⟩ := distinct
    rw [List.flatMap_cons, occurrences_append]
    have elsewhere : ∀ other ∈ results, ∀ finding ∈ other.diagnostics,
        finding.path ≠ path.toString := by
      intro other isOther finding found same
      obtain ⟨otherPath, isPath, recurs⟩ := exists_path_of_mem rest isOther
      refine apart (List.mem_map.mpr ⟨otherPath, isPath, ?_⟩)
      rw [← recurs.path finding found, same]
    rcases List.mem_cons.mp isFile with rfl | later
    · have none : occurrences (results.flatMap (·.diagnostics)) diagnostic.mark = 0 := by
        refine occurrences_eq_zero fun finding found same => ?_
        obtain ⟨other, isOther, found⟩ := List.mem_flatMap.mp found
        exact elsewhere other isOther finding found
          ((congrArg Mark.path same).trans (here.path diagnostic member))
      rw [none, Nat.add_zero]
    · have none : occurrences first.diagnostics diagnostic.mark = 0 := by
        refine occurrences_eq_zero fun finding found same => ?_
        exact elsewhere file later diagnostic member
          ((congrArg Mark.path same).symm.trans (here.path finding found))
      rw [none, Nat.zero_add, ih distinct later]

theorem occurrences_flatMap_le (distinct : (files.map Path.toString).Nodup) (mark : Mark) :
    occurrences (results.flatMap (·.diagnostics)) mark ≤
      (checks.map CheckKind.id).count mark.source := by
  by_cases occurs : ∃ diagnostic ∈ results.flatMap (·.diagnostics), diagnostic.mark = mark
  · obtain ⟨diagnostic, member, rfl⟩ := occurs
    obtain ⟨file, isFile, member⟩ := List.mem_flatMap.mp member
    obtain ⟨path, -, found⟩ := exists_path_of_mem recurs isFile
    rw [occurrences_flatMap recurs distinct isFile member]
    exact found.atMost diagnostic.mark
  · rw [occurrences_eq_zero fun diagnostic member same => occurs ⟨diagnostic, member, same⟩]
    exact Nat.zero_le _

end Files

/-! ### The whole run -/

/-- How often a check is asked for; without ids each check is asked for once. -/
def timesAsked (ids : List String) (id : String) : Nat := if ids = [] then 1 else ids.count id

theorem exists_kinds {ids : List String} (known : ∀ id ∈ ids, id ∈ CheckKind.all.map CheckKind.id) :
    ∃ kinds : List CheckKind, kinds.map CheckKind.id = ids := by
  induction ids with
  | nil => exact ⟨[], rfl⟩
  | cons id ids ih =>
    obtain ⟨kind, -, isId⟩ := List.mem_map.mp (known id List.mem_cons_self)
    obtain ⟨kinds, areIds⟩ := ih fun other member => known other (List.mem_cons_of_mem _ member)
    exact ⟨kind :: kinds, by rw [List.map_cons, isId, areIds]⟩

/-- The checks of a run are those asked for, as often as they are. -/
theorem exists_resolved (settings : Settings) {ids : List String}
    (known : ∀ id ∈ ids, id ∈ CheckKind.all.map CheckKind.id) :
    ∃ checks, resolveChecks settings ids = .ok checks ∧
      (∀ id, (checks.map CheckKind.id).count id ≤ timesAsked ids id) ∧
      ∀ id, 0 < (checks.map CheckKind.id).count id →
        (checks.map CheckKind.id).count id = timesAsked ids id := by
  by_cases empty : ids = []
  · subst empty
    have distinct : ((CheckKind.all.filter (·.isEnabled settings)).map CheckKind.id).Nodup :=
      ((List.filter_sublist.map _).nodup (show (CheckKind.all.map CheckKind.id).Nodup by decide))
    have once := List.nodup_iff_count_le_one.mp distinct
    refine ⟨_, if_pos rfl, once, fun id positive => ?_⟩
    exact Nat.le_antisymm (once id) positive
  · obtain ⟨kinds, rfl⟩ := exists_kinds known
    have nonempty : kinds ≠ [] := fun none => empty (by rw [none]; rfl)
    refine ⟨kinds, resolveChecks_ids settings nonempty, fun id => ?_, fun id _ => ?_⟩
    · rw [timesAsked, if_neg empty]
    · rw [timesAsked, if_neg empty]

/-- Where a run looks for files: at its arguments, or else at its root. -/
def targets (root : Path) (arguments : List Path) : List Path :=
  if arguments = [] then [root] else arguments.map fun path => root / path

theorem clean_targets (root : String) (arguments : List String) :
    ∀ path ∈ targets (Path.ofString root) (arguments.map Path.ofString), path.Clean := by
  intro path member
  unfold targets at member
  split at member
  · rw [List.mem_singleton.mp member]
    exact Path.clean_ofString root
  · obtain ⟨_, isArgument, rfl⟩ := List.mem_map.mp member
    obtain ⟨argument, -, rfl⟩ := List.mem_map.mp isArgument
    exact (Path.clean_ofString root).div (Path.clean_ofString argument)

/-- The result of a run is that of its files. -/
theorem yields_check {installation : Installation} {disk : Disk} {settings : Settings}
    {root : Path} {arguments : List Path} {ids : List String} {checks : List CheckKind}
    {results : List FileResult} (resolved : resolveChecks settings ids = .ok checks)
    (checked : (checkFiles installation disk settings checks
      (discover disk (targets root arguments))).Yields results) (duration : Duration) :
    (check installation disk settings root arguments ids duration).Yields ⟨results, duration⟩ := by
  unfold check
  refine (Run.yields_of_ok resolved).bind ?_
  -- everything but the files only reports how far the run has come
  refine (Run.yields_report _).bind ((Run.yields_report _).bind ((Run.yields_report _).bind ?_))
  refine checked.bind ((Run.yields_report _).bind ((Run.yields_report _).bind ?_))
  exact Run.yields_pure _

/-- A run over any files, with checks that are known, comes to a result. In this a finding occurs at
most as often as its check is asked for, so no finding occurs twice if no check is asked for twice;
and about a file that did not fail, it occurs exactly as often. -/
theorem occurrences_of_check {grammar : Grammar} (orderly : ∀ bytes, Orderly (grammar bytes))
    {disk : Disk} (proper : disk.Proper) (settings : Settings) (root : String)
    (arguments : List String) {ids : List String}
    (known : ∀ id ∈ ids, id ∈ CheckKind.all.map CheckKind.id) (duration : Duration) :
    ∃ result, (check (.available grammar) disk settings (Path.ofString root)
        (arguments.map Path.ofString) ids duration).Yields result ∧
      (∀ mark, occurrences result.diagnostics mark ≤ timesAsked ids mark.source) ∧
      (ids.Nodup → (result.diagnostics.map Diagnostic.mark).Nodup) ∧
      ∀ file ∈ result.files, file.status ≠ .failed → ∀ diagnostic ∈ file.diagnostics,
        occurrences result.diagnostics diagnostic.mark = timesAsked ids diagnostic.source := by
  obtain ⟨checks, resolved, fewer, same⟩ := exists_resolved settings known
  have distinct := nodup_toString_discover proper (clean_targets root arguments)
  obtain ⟨results, checked, recurs⟩ := yields_checkFiles orderly disk settings checks
    (discover disk (targets (Path.ofString root) (arguments.map Path.ofString)))
  have atMost := fun mark : Mark =>
    Nat.le_trans (occurrences_flatMap_le recurs distinct mark) (fewer mark.source)
  refine ⟨⟨results, duration⟩, yields_check resolved checked duration, atMost, ?_, ?_⟩
  · intro once
    refine List.nodup_iff_count_le_one.mpr fun mark => Nat.le_trans (atMost mark) ?_
    unfold timesAsked
    split
    · exact Nat.le_refl 1
    · exact List.nodup_iff_count_le_one.mp once _
  · intro file isFile finished diagnostic member
    obtain ⟨path, -, found⟩ := exists_path_of_mem recurs isFile
    have count := found.finished finished diagnostic member
    have whole := occurrences_flatMap recurs distinct isFile member
    have positive := occurrences_pos member
    rw [count] at positive
    exact (whole.trans count).trans (same _ positive)

/-! ### A check asked for twice

The file `user.rb` declares a class and has no spec. Both arguments lead to it. -/

def bareUser : String := "class User\n  def name\n  end\nend\n"

def bareUserTree : Concrete :=
  construct "program" 0 32 none
    [construct "class" 0 31 none
      [token "class" 0 5, construct "constant" 6 10 (some "name") [],
        construct "body_statement" 13 27 (some "body")
          [construct "method" 13 27 none
            [token "def" 13 16, construct "identifier" 17 21 (some "name") [],
              token "end" 24 27]],
        token "end" 28 31]]

def bareUserDisk : Disk :=
  ⟨[], [(["app"], .directory), (["app", "models"], .directory),
    (["app", "models", "user.rb"], .file bareUser.toUTF8)]⟩

/-- Settings under which no method is excluded. -/
def anyMethod : Settings := { publicMethodHasSpec := { excluded := [] } }

/-- A run over `user.rb`, named twice. -/
def checkBareUser (kinds : List CheckKind) : Run AnalysisResult :=
  check (.available fun _ => bareUserTree) bareUserDisk anyMethod (Path.ofString "")
    (["app/models/user.rb", "./app//models/user.rb"].map Path.ofString) (kinds.map CheckKind.id)
    (.whole 0)

def missingUserSpec : Mark := ⟨"app/models/user.rb", "RSpecParity/FileHasSpec", 1, some 0⟩

/-- The missing spec of one file is reported for each time its check is asked for. -/
theorem repeated_check_repeats_finding :
    ((checkBareUser [.fileHasSpec, .fileHasSpec]).run.run []).1.toOption.map
        (fun result => result.diagnostics.map Diagnostic.mark) =
      some [missingUserSpec, missingUserSpec] := by
  decide +kernel

/-- With each check asked for once, it is reported once, though both arguments lead to the file. -/
theorem occurrences_of_check_user :
    ∃ result, (checkBareUser [.publicMethodHasSpec, .fileHasSpec]).Yields result ∧
      result.diagnostics.map Diagnostic.mark = [missingUserSpec] ∧
      ∀ mark, occurrences result.diagnostics mark ≤ 1 := by
  have orderly : Orderly bareUserTree := by decide
  obtain ⟨result, yields, -, distinct, -⟩ := occurrences_of_check (fun _ => orderly)
    (show bareUserDisk.Proper by decide) anyMethod ""
    ["app/models/user.rb", "./app//models/user.rb"]
    (show ∀ id ∈ [CheckKind.publicMethodHasSpec, .fileHasSpec].map CheckKind.id,
      id ∈ CheckKind.all.map CheckKind.id by decide) (.whole 0)
  have computed : ((checkBareUser [.publicMethodHasSpec, .fileHasSpec]).run.run []).1.toOption.map
      (fun result => result.diagnostics.map Diagnostic.mark) = some [missingUserSpec] := by
    decide +kernel
  refine ⟨result, yields, ?_, List.nodup_iff_count_le_one.mp (distinct (by decide))⟩
  rw [checkBareUser, yields []] at computed
  exact Option.some.inj computed

end Check

end SpecLint
