import ControlVault.Audit.Sessions

namespace ControlVault.Audit

open Foundation Directory List

/-!
# The round trip of the audit log

In a run without crashes and input-output failures the anchor always names the
last record, so every reopening finds nothing to recover and leaves the
directory alone.  The log is then exactly the acknowledged records, and every
way of reading it agrees: the bytes of the files, the export, the verification
with its count, the anchor and the number that the gate shows.
-/

variable {acks : List Acknowledgement} {host : Host} {dir : Directory}
  {segs : List (List DecodedFrame)}

/-! ## Reading a stored log -/

section

variable (stored : Stored host dir segs []) (fits : segs.length <= 10 ^ 6)

include stored fits

/-- The files of a stored log without a tail are laid out as one chain. -/
theorem Stored.laid_from :
    ∀ after before, segs = before ++ after ->
      Laid host dir before.length (1 + before.flatten.length) (finalHash 0 before.flatten)
        ((range' before.length after.length).map segmentName) after := by
  intro after
  induction after with
  | nil =>
    intro before _
    exact .nil _ _ _
  | cons frames rest ih =>
    intro before split
    have later := ih (before ++ [frames]) (by rw [split, append_assoc]; rfl)
    rw [flatten_append, length_append, length_append, finalHash_append, flatten_singleton,
      <- Nat.add_assoc] at later
    have position : before.length < segs.length := by
      rw [split, length_append, length_cons]
      omega
    have file := stored.file_at split
    rw [ite_self, append_nil] at file
    exact .cons ⟨rfl, by change before.length < 2 ^ 64; omega, stored.first_lt split⟩ ⟨_, rfl, file⟩
      later

theorem Stored.laid : Laid host dir 0 1 0 (listSegments dir) segs := by
  rw [stored.listSegments_eq fits, range_eq_range']
  exact stored.laid_from fits segs [] rfl

/-- The verification counts the records and the export reads them. -/
theorem Stored.read :
    verifyAll host dir = .ok segs.flatten.length /\
      exportRecords host dir (listSegments dir) = .ok segs.flatten := by
  have verified := stored.verified fits readFrame_nil
  have frames := Stored.scansFrom_frames segs [] 0 1 0
  have exact := (verified.exact_of_laid (stored.laid fits) Nat.one_pos stored.linked
    stored.inRange).1
  constructor
  · rw [verifyAll, verifyAllSegments_ok_iff.mpr ⟨_, verified⟩]
    rw [verified.countAll_eq exact, totalRecords, frames]
  · rw [verified.exportRecords_eq (fun scan mem => by rw [(exact scan mem).noRest]; decide), frames]

end

/-! ## Calm runs -/

/-- Neither a crash nor an input-output failure. -/
def AuditAction.Calm : AuditAction -> Prop
  | crashed => False
  | recorded _ _ (.error (.io _)) => False
  | _ => True

/-- The log holds exactly the acknowledged records and its anchor names the last one. -/
structure Written (host : Host) (acks : List Acknowledgement) (state : AuditState)
    (segs : List (List DecodedFrame)) : Prop where
  disk : Disk host state.directory segs [] (some (tip segs))
  behind : Behind segs [] (some (tip segs))
  records : List.Forall₂ Acknowledgement.Names acks segs.flatten
  current : ∀ gate, state.gate = some gate -> Current gate segs

/-- An anchor that names the last record needs no recovery. -/
theorem foundIn_tip_quiet (before : List (List DecodedFrame)) (last : List DecodedFrame) :
    (Stored.foundIn before last [] (some (tip (before ++ [last])))).needsRecovery = false := by
  have sequence : (tip (before ++ [last])).sequence = (before.flatten ++ last).length := by
    rw [tip, flatten_append, flatten_singleton]
  have index : (tip (before ++ [last])).segmentIndex = before.length := by
    rw [tip, length_append, length_singleton, Nat.add_sub_cancel]
  have reached : (Stored.foundIn before last [] (some (tip (before ++ [last])))).lastSequence <=
      (before.flatten ++ last).length := by
    change (if last = [] then 0 else _) <= _
    split
    · exact Nat.zero_le _
    · exact le_rfl
  rw [Inspection.needsRecovery, Bool.or_eq_false_iff]
  constructor
  · exact decide_eq_false (lt_irrefl _)
  · apply decide_eq_false
    rw [sequence, index]
    rintro (older | earlier)
    · exact absurd reached older.not_ge
    · exact lt_irrefl _ earlier

section Steps

/-- Reopening a written log leaves it alone; up to a million segments it succeeds. -/
theorem Written.reopened (written : Written host acks ⟨none, dir⟩ segs)
    (maxSize : Nat) (clock : Clock) :
    (∃ gate, openGate host dir maxSize clock = ⟨[], .ok gate⟩ /\
      Written host acks ⟨some gate, dir⟩ segs) ∨
    (10 ^ 6 < segs.length /\
      ∃ error, openGate host dir maxSize clock = ⟨[], .error error⟩) := by
  by_cases fits : segs.length <= 10 ^ 6
  · rcases eq_nil_or_concat segs with rfl | ⟨before, last, rfl⟩
    · exact absurd rfl written.disk.stored.nonempty
    rw [concat_eq_append] at written fits ⊢
    rcases written.disk.opened_quietly written.behind readFrame_nil fits
      (foundIn_tip_quiet before last) with ⟨opened, healthy⟩
    refine .inl ⟨_, opened, written.disk, written.behind, written.records, ?_⟩
    intro gate same
    cases same
    exact healthy.current
  · exact .inr ⟨not_le.mp fits, written.disk.stored.openGate_error fits maxSize clock⟩

theorem Written.recorded (written : Written host acks ⟨some gate, dir⟩ segs)
    (recording : record host gate dir event now = ⟨ops, result, left⟩) :
    (∃ text, result = .error (.io text)) ∨
    (∃ error, result = .error error /\
      Written host acks ⟨some left, dir.applyAll ops⟩ segs) ∨
    ∃ receipt newSegments, result = .ok receipt /\ segs.length <= newSegments.length /\
      Written host (acks ++ [⟨event, now, receipt⟩])
        ⟨some left, dir.applyAll ops⟩ newSegments := by
  have healthy : Healthy host gate dir segs (tip segs) :=
    ⟨written.disk, written.behind, written.current gate rfl⟩
  by_cases admissible : Admissible gate event
  · rcases admissible.small_or_overlong with small | overlong
    · rcases healthy.record_accepted small admissible.sequence now with
        ⟨_, _, newSegments, accepted, after, frames, grown⟩
      rw [recording] at accepted
      cases accepted
      refine .inr (.inr ⟨_, newSegments, rfl, grown, after.disk, after.behind, ?_, ?_⟩)
      · rw [frames]
        exact rel_append written.records (.cons (nextFrame_names host gate event now) .nil)
      · intro other same
        cases same
        exact after.current
    · rcases healthy.record_overlong admissible overlong now with ⟨_, _, _, failed, _⟩
      rw [recording] at failed
      cases failed
      exact .inl ⟨_, rfl⟩
  · rcases record_refused host dir healthy.current.closed admissible now with
      ⟨error, _, refused⟩
    rw [recording] at refused
    cases refused
    exact .inr (.inl ⟨error, rfl, written⟩)

end Steps

theorem AuditStep.written {event : AuditAction}
    {before after : AuditState} (step : AuditStep host before event after) (calm : event.Calm)
    (written : Written host acks before segs) :
    ∃ newSegments, segs.length <= newSegments.length /\
      Written host (acks ++ event.acknowledgement.toList) after newSegments /\
        ∀ maxSize clock performed, event = .opened maxSize clock performed ->
          segs.length <= 10 ^ 6 -> ∃ gate, performed = ⟨[], .ok gate⟩ := by
  cases step with
  | @opened dir maxSize clock performed opening =>
    refine ⟨segs, le_rfl, ?_⟩
    change Written host (acks ++ []) _ _ /\ _
    rw [append_nil]
    rcases written.reopened maxSize clock with ⟨gate, opened, kept⟩ | ⟨many, error, failed⟩
    · rw [opening] at opened
      subst opened
      refine ⟨kept, ?_⟩
      intro _ _ _ same _
      cases same
      exact ⟨gate, rfl⟩
    · rw [opening] at failed
      subst failed
      refine ⟨written, ?_⟩
      intro _ _ _ _ fits
      exact absurd fits many.not_ge
  | @recorded gate dir event now ops result left recording =>
    rcases written.recorded recording with
      ⟨_, rfl⟩ | ⟨_, rfl, kept⟩ | ⟨_, newSegments, rfl, grown, kept⟩
    · exact calm.elim
    · refine ⟨segs, le_rfl, ?_, nofun⟩
      change Written host (acks ++ []) _ _
      rwa [append_nil]
    · exact ⟨newSegments, grown, kept, nofun⟩
  | dropped =>
    refine ⟨segs, le_rfl, ?_, nofun⟩
    change Written host (acks ++ []) _ _
    rw [append_nil]
    exact ⟨written.disk, written.behind, written.records, nofun⟩
  | crashedOpening | crashedRecording => exact calm.elim

variable {state : AuditState} {events : List AuditAction}
  {performed : Performed (Except AuditError AuditGate)} {clock : Clock} {maxSize : Nat}

theorem calm_run
    (run : Run (AuditStep host) start events state) (calm : ∀ event ∈ events, event.Calm)
    (written : Written host acks start segs) :
    ∃ newSegments, Written host (acks ++ acknowledged events) state newSegments /\
      (newSegments.length <= 10 ^ 6 ->
        ∀ maxSize clock performed, .opened maxSize clock performed ∈ events ->
          ∃ gate, performed = ⟨[], .ok gate⟩) := by
  induction run with
  | nil =>
    refine ⟨segs, ?_, nofun⟩
    rwa [show acknowledged [] = [] from rfl, append_nil]
  | @snoc middle finish events event _ step ih =>
    rcases ih (fun event mem => calm event (mem_append_left _ mem)) with
      ⟨_, reached, opened⟩
    have last : event.Calm := calm event (mem_append_right _ mem_cons_self)
    rcases step.written last reached with ⟨newSegments, grown, _, quiet⟩
    refine ⟨newSegments, ?_, ?_⟩
    · rwa [acknowledged_snoc, <- append_assoc]
    · intro fits maxSize clock performed mem
      rcases mem_append.mp mem with earlier | new
      · exact opened (grown.trans fits) maxSize clock performed earlier
      · exact quiet maxSize clock performed (mem_singleton.mp new).symm (grown.trans fits)

/-! ## The round trip -/

/-- All readings of the log give exactly the acknowledged records. -/
structure RoundTrip (host : Host) (dir : Directory) (acks : List Acknowledgement)
    (segs : List (List DecodedFrame)) : Prop where
  /-- Every file is a header that continues the chain and the frames of its records. -/
  laid : Laid host dir 0 1 0 (listSegments dir) segs
  linked : Linked host.env 0 1 segs.flatten
  records : List.Forall₂ Acknowledgement.Names acks segs.flatten
  numbers : segs.flatten.map DecodedFrame.sequence = range' 1 acks.length
  exported : exportRecords host dir (listSegments dir) = .ok segs.flatten
  verified : verifyAll host dir = .ok acks.length
  anchored : loadAnchor host dir = .ok (some
    ⟨segs.length - 1, acks.length, finalHash 0 segs.flatten⟩)
  /-- The last record is in the segment that the anchor names. -/
  lastSegment : acks ≠ [] -> segs.getLastD [] ≠ []

theorem Written.roundTrip
    (written : Written host acks state segs) (fits : segs.length <= 10 ^ 6) :
    RoundTrip host state.directory acks segs := by
  have stored := written.disk.stored
  have length := written.records.length_eq
  have loaded := written.disk.loadAnchor_eq (written.behind.valid fits stored.inRange)
  rcases stored.read fits with ⟨counted, exported⟩
  refine ⟨stored.laid fits, stored.linked, written.records, ?_, exported, ?_, ?_, ?_⟩
  · rw [length]
    exact stored.linked.numbers stored.inRange
  · rw [length]
    exact counted
  · rw [length]
    exact loaded
  · intro some empty
    have positive := length_pos_iff.mpr stored.nonempty
    have index : (tip segs).segmentIndex + 1 = segs.length := by
      change segs.length - 1 + 1 = segs.length
      omega
    have none : segs.flatten.length = 0 := written.behind.2.2 index empty
    rw [<- length] at none
    exact some (length_eq_zero_iff.mp none)

theorem opened_newLog
    (step : AuditStep host newLog (.opened maxSize clock performed) state) :
    performed.result = .ok (initialGate maxSize) /\ Written host [] state [[]] := by
  cases step with
  | opened _ _ _ opening =>
    subst opening
    have disk := (disk_initial host).anchor_complete initialAnchor
    refine ⟨rfl, ?_, behind_initial, .nil, ?_⟩
    · exact disk
    · intro gate same
      cases same
      exact (initialGate_healthy disk).current

theorem calm_log (run : Sessions host (.opened maxSize clock performed :: events) state)
    (calm : ∀ event ∈ events, event.Calm) :
    ∃ segs, Written host (acknowledged events) state segs := by
  rcases run.split [.opened maxSize clock performed] events rfl with ⟨_, first, rest⟩
  rcases opened_newLog (first.of_single rfl) with ⟨_, written⟩
  rcases calm_run rest calm written with ⟨segs, reached, _⟩
  exact ⟨segs, reached⟩

/-- In a run of records, drops and reopenings without failures, every reopening succeeds and
writes nothing, the gate shows the number of records, and the log reads back as recorded. -/
theorem audit_round_trip {maxSize : Nat} {clock : Clock}
    {performed : Performed (Except AuditError AuditGate)} {events : List AuditAction}
    {state : AuditState}
    (run : Sessions host (.opened maxSize clock performed :: events) state)
    (calm : ∀ event ∈ events, event.Calm) (few : (listSegments state.directory).length < 10 ^ 6) :
    performed.result = .ok (initialGate maxSize) /\
    (∀ size time reopening, .opened size time reopening ∈ events ->
      ∃ gate, reopening = ⟨[], .ok gate⟩) /\
    (∀ gate, state.gate = some gate -> gate.sequence = (acknowledged events).length) /\
    ∃ segs, RoundTrip host state.directory (acknowledged events) segs := by
  rcases run.split [.opened maxSize clock performed] events rfl with ⟨_, first, rest⟩
  rcases opened_newLog (first.of_single rfl) with ⟨opened, written⟩
  rcases calm_run rest calm written with ⟨segs, reached, reopened⟩
  rw [nil_append] at reached
  have fits : segs.length <= 10 ^ 6 := by
    rw [reached.disk.stored.length_listSegments] at few
    exact few.le
  refine ⟨opened, reopened fits, ?_, segs, reached.roundTrip fits⟩
  intro gate same
  rw [(reached.current gate same).sequence, reached.records.length_eq]

def sampleReopening : Performed (Except AuditError AuditGate) :=
  openGate sampleHost sampleLog 200 ⟨0, 0⟩

/-- The small run behind its first opening, with a drop and a reopening. -/
def sampleLater : List AuditAction :=
  [.recorded sampleEvent 7 sampleRecord.result.1, .dropped, .opened 200 ⟨0, 0⟩ sampleReopening]

theorem sampleReopening_run :
    Sessions sampleHost (.opened 200 ⟨0, 0⟩ (openGate sampleHost Table.empty 200 ⟨0, 0⟩) :: sampleLater)
      ⟨sampleReopening.result.toOption, sampleLog.applyAll sampleReopening.operations⟩ := by
  have dropped : Sessions sampleHost (sampleEvents ++ [.dropped]) ⟨none, sampleLog⟩ :=
    .snoc sample_run (.dropped (some sampleGate) sampleLog)
  exact .snoc dropped (.opened sampleLog 200 ⟨0, 0⟩ rfl)

theorem sampleLater_calm : ∀ event ∈ sampleLater, event.Calm := by
  unfold sampleLater
  rw [sampleRecord_accepted]
  simp only [forall_mem_cons]
  exact ⟨trivial, trivial, trivial, forall_mem_nil _⟩

/-- The small log is reopened without a change and reads back. -/
theorem sample_round_trip :
    (∃ gate, sampleReopening = ⟨[], .ok gate⟩) /\
      ∃ segs, RoundTrip sampleHost (sampleLog.applyAll sampleReopening.operations)
        (acknowledged sampleLater) segs := by
  have few : (listSegments (sampleLog.applyAll sampleReopening.operations)).length < 10 ^ 6 := by
    decide +kernel
  have outcome := audit_round_trip sampleReopening_run sampleLater_calm
  dsimp only at outcome
  rcases outcome few with ⟨_, reopened, _, readBack⟩
  refine ⟨reopened 200 ⟨0, 0⟩ sampleReopening ?_, readBack⟩
  exact mem_of_getElem? (show sampleLater[2]? = _ from rfl)

end ControlVault.Audit
