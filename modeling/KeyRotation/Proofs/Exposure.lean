import Mathlib
import KeyRotation.Proofs.Course
import KeyRotation.Proofs.Overlap
import KeyRotation.Vault

/-! A target that others publish while a run is under way. Each batch is moved to whatever is
published when it is sent, which may have changed since the run last looked. As the run looks
again after every batch, it is off its own target with one batch at most, and that is its last. -/
namespace KeyRotation

/-- After each batch the next call reads the target and finds it as `pinned`. A batch is
excused from this if it is the last one and the run has an excuse. -/
def Confirmed (kind : KeyKind) (pinned : KeyVersion) (excuse : Prop) : List Event → Prop
  | [] => True
  | .migrate _ _ _ :: rest =>
    (rest.head? = some (.target kind (.ok (some pinned))) ∨ excuse ∧ sent rest = []) ∧
      Confirmed kind pinned excuse rest
  | _ :: rest => Confirmed kind pinned excuse rest

namespace Confirmed

variable {kind : KeyKind} {pinned : KeyVersion} {excuse : Prop} {first second : List Event}

theorem append_left (idle : sent first = []) (confirmed : Confirmed kind pinned excuse second) :
    Confirmed kind pinned excuse (first ++ second) := by
  induction first with
  | nil => exact confirmed
  | cons event rest ih =>
    cases event with
    | migrate => cases idle
    | now | target | status | pending => exact ih idle

theorem of_sent_eq_nil (idle : sent first = []) : Confirmed kind pinned excuse first := by
  rw [← List.append_nil first]
  exact append_left idle trivial

theorem append_right (confirmed : Confirmed kind pinned excuse first) (idle : sent second = []) :
    Confirmed kind pinned excuse (first ++ second) := by
  induction first with
  | nil => exact .of_sent_eq_nil idle
  | cons event rest ih =>
    cases event with
    | migrate =>
      obtain ⟨next, confirmed⟩ := confirmed
      refine ⟨next.imp (fun read => ?_) (fun last => ⟨last.1, by simp [last.2, idle]⟩),
        ih confirmed⟩
      simp [List.head?_append, read]
    | now | target | status | pending => exact ih confirmed

theorem so_far (confirmed : Confirmed kind pinned excuse (first ++ second)) :
    Confirmed kind pinned True first := by
  induction first with
  | nil => trivial
  | cons event rest ih =>
    cases event with
    | migrate =>
      obtain ⟨next, confirmed⟩ := confirmed
      refine ⟨?_, ih confirmed⟩
      cases rest with
      | nil => exact .inr ⟨trivial, rfl⟩
      | cons =>
        refine next.imp id fun last => ⟨trivial, ?_⟩
        have idle : sent (_ ++ second) = [] := last.2
        rw [sent_append, List.append_eq_nil_iff] at idle
        exact idle.1
    | now | target | status | pending => exact ih confirmed

theorem drop (confirmed : Confirmed kind pinned excuse (first ++ second)) :
    Confirmed kind pinned excuse second := by
  induction first with
  | nil => exact confirmed
  | cons event rest ih =>
    cases event with
    | migrate => exact ih confirmed.2
    | now | target | status | pending => exact ih confirmed

end Confirmed

/-- The loop sends another batch only after it has found its own target again. It is excused
from finding it by a fault, and by the drift that it reports. -/
theorem Rounds.confirmed {task : Task} {limit : Option Elapsed} {started : Instant}
    {batches : List Batch} {tally : Tally} {events : List Event}
    {result : Except Fault (Tally × Reason)}
    (rounds : Rounds task limit started batches tally events result) :
    Confirmed task.kind task.target
      (∀ total reason, result = .ok (total, reason) → reason = .versionDrifted) events := by
  induction rounds with
  | finished => trivial
  | refused | unread => exact ⟨.inr ⟨by simp, rfl⟩, trivial⟩
  | drifted moved => exact ⟨.inr ⟨by simp, rfl⟩, trivial⟩
  | expired limited spent => exact ⟨.inl rfl, trivial⟩
  | onward within rounds ih => exact ⟨.inl rfl, ih.append_left within.sent_eq⟩

theorem Course.confirmed {kind : KeyKind} {settings : Settings}
    {order : List Batch → List Batch} {events : List Event} {result : Except Fault Report}
    (course : Course kind settings order events result) {started : Instant}
    {pinned : KeyVersion} {rest : List Event}
    (begins : events = .now started :: .target kind (.ok (some pinned)) :: rest) :
    Confirmed kind pinned (∀ report, result = .ok report → report.reason = .versionDrifted)
      rest := by
  cases course with
  | unresolved opening =>
    have idle := opening.sent_eq
    rw [(List.cons.inj begins).2] at idle
    exact .of_sent_eq_nil idle
  | skipped opening =>
    obtain ⟨-, begins⟩ := List.cons.inj begins
    have idle := congrArg sent begins
    rw [sent_append, opening.sent_eq] at idle
    exact .of_sent_eq_nil idle.symm
  | @worked _ _ later ending task outcome _ opening rounds closing =>
    cases opening with
    | work ready =>
    obtain ⟨-, begins⟩ := List.cons.inj begins
    obtain ⟨same, rfl⟩ := List.cons.inj begins
    cases same
    have confirmed := rounds.confirmed
    change Confirmed kind _ _ (later ++ ending)
    refine .append_right ?_ closing.sent_eq
    cases closing with
    | failed => simpa using confirmed
    | reported => simpa [Tally.report] using confirmed

/-- The targets that batches are moved to: what is published when each of them is sent. -/
def aims {ι σ : Type} (published : σ → Option KeyVersion) :
    List (Moment ι σ) → List (Option KeyVersion)
  | [] => []
  | moment :: rest =>
    match moment.event with
    | .migrate _ _ _ => published moment.found :: aims published rest
    | _ => aims published rest

section Aims

variable {ι σ : Type} {published : σ → Option KeyVersion} {kind : KeyKind} {pinned : KeyVersion}
  {excuse : Prop} {moments : List (Moment ι σ)}

theorem aims_eq_nil (idle : sent (moments.map Moment.event) = []) :
    aims published moments = [] := by
  induction moments with
  | nil => rfl
  | cons moment rest ih =>
    obtain ⟨who, found, event⟩ := moment
    cases event with
    | migrate => cases idle
    | now | target | status | pending => exact ih idle

/-- A target that does not come back is found by the reading after the first batch that was
moved to another one. -/
theorem aims_of_confirmed (confirmed : Confirmed kind pinned excuse (moments.map Moment.event))
    (told : ∀ moment ∈ moments, ∀ current, moment.event = .target kind (.ok current) →
      current = published moment.found)
    (away : moments.Pairwise fun early late =>
      published late.found = some pinned → published early.found = some pinned) :
    (∀ aim ∈ (aims published moments).dropLast, aim = some pinned) ∧
      (¬excuse → ∀ aim ∈ aims published moments, aim = some pinned) := by
  induction moments with
  | nil => simp [aims]
  | cons moment rest ih =>
    obtain ⟨before, away⟩ := List.pairwise_cons.1 away
    have later (confirmed : Confirmed kind pinned excuse (rest.map Moment.event)) :=
      ih confirmed (fun other member => told other (List.mem_cons_of_mem _ member)) away
    obtain ⟨who, found, event⟩ := moment
    cases event with
    | now | target | status | pending => exact later confirmed
    | migrate =>
      obtain ⟨next, confirmed⟩ := confirmed
      obtain ⟨inner, all⟩ := later confirmed
      simp only [aims]
      rcases next with read | ⟨excused, last⟩
      · rw [List.head?_map, Option.map_eq_some_iff] at read
        obtain ⟨check, head, read⟩ := read
        have member := List.mem_of_mem_head? head
        have there := before check member (told check (by simp [member]) _ read).symm
        refine ⟨?_, fun none => by simpa [there] using all none⟩
        cases after : aims published rest with
        | nil => simp
        | cons => simpa [there, after] using inner
      · rw [aims_eq_nil last]
        exact ⟨by simp, fun none => absurd excused none⟩

theorem aims_eq_nil_of_moved {batch check : Moment ι σ} {other : KeyKind} {part : Batch}
    {reply : Except Fault BatchOutcome} (batched : batch.event = .migrate other part reply)
    (confirmed : Confirmed kind pinned True ((batch :: check :: moments).map Moment.event))
    (told : ∀ current, check.event = .target kind (.ok current) → current = published check.found)
    (moved : published check.found ≠ some pinned) : aims published moments = [] := by
  rw [List.map_cons, batched] at confirmed
  rcases confirmed.1 with read | ⟨-, last⟩
  · have read : check.event = .target kind (.ok (some pinned)) := by simpa using read
    exact absurd (told _ read).symm moved
  · have idle : sent ([check.event] ++ moments.map Moment.event) = [] := last
    rw [sent_append, List.append_eq_nil_iff] at idle
    exact aims_eq_nil idle.2

end Aims

theorem Course.begins {kind : KeyKind} {settings : Settings} {order : List Batch → List Batch}
    {events more : List Event} {result : Except Fault Report}
    (course : Course kind settings order (events ++ more) result) (batched : sent events ≠ []) :
    ∃ started pinned rest, events = .now started :: .target kind (.ok (some pinned)) :: rest := by
  generalize whole : events ++ more = run at course
  have busy : sent run ≠ [] := by simp [← whole, batched]
  cases course with
  | unresolved opening => simp [opening.sent_eq] at busy
  | skipped opening => simp [opening.sent_eq] at busy
  | worked opening =>
    cases opening
    rcases events with _ | ⟨first, _ | ⟨second, rest⟩⟩
    · exact absurd rfl batched
    · obtain ⟨rfl, -⟩ := List.cons.inj whole
      exact absurd rfl batched
    · obtain ⟨rfl, later⟩ := List.cons.inj whole
      obtain ⟨rfl, -⟩ := List.cons.inj later
      exact ⟨_, _, _, rfl⟩

/-- Batches that are sent while others publish what they like. A run that has sent one has
read its target before; call that the pinned one. A batch is the last one if the run's next call
finds another target published, whatever was published in between. So if the pinned target does
not come back once it is gone, only the last batch can be moved to another one, and a report
that follows says so. -/
theorem moved_target_exposes_last_batch {ι σ : Type} [DecidableEq ι] (world : World σ)
    (kind : KeyKind) (published : σ → Option KeyVersion)
    (tells : ∀ s current, (world s (.target kind)).1 = .ok current → current = published s)
    (settings : Settings) (order : List Batch → List Batch)
    (shared : Shared ι σ (Except Fault Report)) (who : ι)
    (begun : shared.runs who = migrate kind settings order) (turns : List (Turn ι σ))
    (batched : sent ((shared.own world turns who).map Moment.event) ≠ []) :
    ∃ clock look rest pinned, shared.own world turns who = clock :: look :: rest ∧
      look.event = .target kind (.ok (some pinned)) ∧
      (∀ before batch check after other part reply, rest = before ++ batch :: check :: after →
        batch.event = .migrate other part reply → published check.found ≠ some pinned →
        aims published after = []) ∧
      ((rest.Pairwise fun early late =>
          published late.found = some pinned → published early.found = some pinned) →
        (∀ aim ∈ (aims published rest).dropLast, aim = some pinned) ∧
        ∀ report, (shared.after world turns).runs who = .done (.ok report) →
          (∃ aim ∈ aims published rest, aim ≠ some pinned) →
          report.reason = .versionDrifted) := by
  have course (more : List Event) (result : Except Fault Report)
      (ends : ((shared.after world turns).runs who).Runs more result) :
      Course kind settings order ((shared.own world turns who).map Moment.event ++ more) result :=
    course_of_runs (begun ▸ Shared.runs_own ends)
  obtain ⟨more, result, ends⟩ := ((shared.after world turns).runs who).exists_runs
  obtain ⟨started, pinned, _, begins⟩ := (course more result ends).begins batched
  obtain ⟨clock, _, split, clocked, later⟩ := List.map_eq_cons_iff.1 begins
  obtain ⟨look, rest, rfl, looked, rfl⟩ := List.map_eq_cons_iff.1 later
  have known (more : List Event) (result : Except Fault Report)
      (ends : ((shared.after world turns).runs who).Runs more result) :
      Confirmed kind pinned (∀ report, result = .ok report → report.reason = .versionDrifted)
        (rest.map Moment.event ++ more) :=
    (course more result ends).confirmed (by rw [begins]; rfl)
  have confirmed : Confirmed kind pinned True (rest.map Moment.event) :=
    (known more result ends).so_far
  have told : ∀ moment ∈ rest, ∀ current, moment.event = .target kind (.ok current) →
      current = published moment.found := by
    intro moment member current read
    have own : moment ∈ shared.own world turns who := by simp [split, member]
    have answer := Shared.answered (List.mem_of_mem_filter own)
    rw [read] at answer
    exact tells _ _ (Event.target.inj answer).2
  refine ⟨clock, look, rest, pinned, split, looked, ?_, fun away => ?_⟩
  · intro before batch check after other part reply place batched moved
    rw [place, List.map_append] at confirmed
    exact aims_eq_nil_of_moved batched confirmed.drop (told check (by simp [place])) moved
  · refine ⟨(aims_of_confirmed confirmed told away).1, ?_⟩
    rintro report ran ⟨aim, member, other⟩
    have ended : ((shared.after world turns).runs who).Runs [] (.ok report) := by
      rw [ran]
      exact ⟨rfl, rfl⟩
    have whole := known [] (.ok report) ended
    rw [List.append_nil] at whole
    by_contra steady
    refine other ((aims_of_confirmed whole told away).2 ?_ aim member)
    exact fun drifts => steady (drifts report rfl)

def Vault.published (vault : Vault) : Option KeyVersion :=
  (vault.store.target .kek).toOption.join

def retargeted : Shared Unit Vault (Except Fault Report) where
  runs _ := migrate .kek ⟨4, none, false, by decide⟩ id
  state := {
    store := {
      config := some [("KEK_TARGET_VERSION", .integer 7)]
      deks := some [⟨-3, 1, none⟩, ⟨2, 1, none⟩, ⟨5, 2, none⟩] }
    keys := KeyInventory.empty.insert .kek 7 ⟨true, true, none⟩ }

/-- Another target is published between the check behind the first batch and the second one. -/
def retargetedTurns : List (Turn Unit Vault) :=
  List.replicate 6 (.run ()) ++
    .outside (fun vault => { vault with store := { vault.store with
      config := some [("KEK_TARGET_VERSION", .integer 8)] } }) :: List.replicate 3 (.run ())

theorem retargeted_exposes :
    let own := retargeted.own Vault.world retargetedTurns ()
    let rest := own.drop 2
    (∀ vault current, (Vault.world vault (.target .kek)).1 = .ok current →
        current = vault.published) ∧
      sent (own.map Moment.event) = [⟨-3, 0⟩, ⟨1, 4⟩] ∧
      (rest.Pairwise fun early late =>
        late.found.published = some 7 → early.found.published = some 7) ∧
      aims Vault.published rest = [some 7, some 8] ∧
      (∀ aim ∈ (aims Vault.published rest).dropLast, aim = some 7) ∧
      (retargeted.after Vault.world retargetedTurns).state.store.rows .kek =
        some [⟨-3, 7, none⟩, ⟨2, 8, none⟩, ⟨5, 2, none⟩] ∧
      ∃ report, (retargeted.after Vault.world retargetedTurns).runs () = .done (.ok report) ∧
        report.reason = .versionDrifted := by
  intro own rest
  have tells : ∀ vault current, (Vault.world vault (.target .kek)).1 = .ok current →
      current = vault.published := by
    intro vault current read
    replace read : vault.store.target .kek = .ok current := read
    simp [Vault.published, read, Except.toOption]
  have batches : sent ((retargeted.own Vault.world retargetedTurns ()).map Moment.event) =
      [⟨-3, 0⟩, ⟨1, 4⟩] := by cbv
  have seen : ((retargeted.own Vault.world retargetedTurns ()).map (·.found.published)).drop 2 =
      [some 7, some 7, some 7, some 7, some 8, some 8, some 8] := by cbv
  have moved : aims Vault.published ((retargeted.own Vault.world retargetedTurns ()).drop 2) =
      [some 7, some 8] := by cbv
  have second : (retargeted.own Vault.world retargetedTurns ())[1]?.map Moment.event =
      some (.target .kek (.ok (some 7))) := by cbv
  have ended : (retargeted.after Vault.world retargetedTurns).runs () =
      .done (.ok ⟨.kek, some 7, 2, 0, 3, 2, .versionDrifted, 0⟩) := by cbv
  have away : rest.Pairwise fun early late =>
      late.found.published = some 7 → early.found.published = some 7 := by
    have gone : (rest.map (·.found.published)).Pairwise
        fun early late => late = some 7 → early = some 7 := by
      rw [List.map_drop, seen]
      decide
    exact List.pairwise_map.1 gone
  obtain ⟨clock, look, later, pinned, split, looked, -, exposes⟩ :=
    moved_target_exposes_last_batch Vault.world .kek Vault.published tells _ _ retargeted () rfl
      retargetedTurns (by rw [batches]; decide)
  obtain rfl : pinned = 7 := by simpa [split, looked] using second
  obtain rfl : later = rest := by simp [rest, own, split]
  obtain ⟨earlier, reported⟩ := exposes away
  have table : (retargeted.after Vault.world retargetedTurns).state.store.rows .kek =
      some [⟨-3, 7, none⟩, ⟨2, 8, none⟩, ⟨5, 2, none⟩] := by cbv
  refine ⟨tells, batches, away, moved, earlier, table, _, ended, ?_⟩
  refine reported _ ended ⟨some 8, ?_, by decide⟩
  simp [rest, own, moved]

end KeyRotation
