import ControlVault.Audit.Sessions

namespace ControlVault.Audit

open Foundation Directory

/-!
# Opening after a crash

A crash may fall between the creation of a segment file and the end of its
header.  The next opening then finds a segment that is too short for a header
and fails, and so does every later one.  Apart from this window, from logs with
more than a million segments and from logs that have run out of numbers, opening
succeeds after every crash, and every acknowledged record is at its place in the
chain.
-/

variable {host : Host}

/-- Opening succeeds and every acknowledged record is where its receipt says. -/
def Recovers (host : Host) (dir : Directory) (acks : List Acknowledgement)
    (maxSize : Nat) (clock : Clock) : Prop :=
  ∃ gate segs, (openGate host dir maxSize clock).result = .ok gate /\
    Stored host (dir.applyAll (openGate host dir maxSize clock).operations) segs [] /\
    Holds segs.flatten acks

/-- Whatever was done and wherever it was interrupted: the next opening recovers the
acknowledged records exactly when the directory is openable. -/
theorem recovers_iff_openable {events : List AuditAction} {state : AuditState}
    (run : Sessions host events state) (closed : state.gate = none) (maxSize : Nat)
    (clock : Clock) :
    Recovers host state.directory (acknowledged events) maxSize clock <->
      Openable host state.directory := by
  rcases sessions_keep run with ⟨frames, keeps, holds⟩
  rw [AuditState.Keeps, closed] at keeps
  have leftBehind : LeftBehind host state.directory frames := keeps
  rcases leftBehind.opens maxSize clock with
    ⟨openable, _, gate, segs, _, opened, healthy, included⟩ |
      ⟨closed, _, _, failed⟩
  · refine iff_of_true ⟨gate, segs, ?_, ?_, holds.longer included⟩ openable
    · rw [opened]
    · rw [opened]
      exact healthy.disk.stored
  · refine iff_of_false ?_ closed
    rintro ⟨gate, _, opened, _⟩
    rw [failed] at opened
    cases opened

/-- What a crash leaves of the second record of the small run, which starts a segment. -/
def sampleCrash (count : Nat) : Directory :=
  sampleLog.applyAll ((record sampleHost sampleGate sampleLog sampleEvent 9).operations.take count)

theorem sampleCrash_run (count : Nat) :
    Sessions sampleHost (sampleEvents ++ [.crashed]) ⟨none, sampleCrash count⟩ := by
  refine .snoc sample_run (.crashedRecording sampleEvent 9 ?_)
  exact .take _ _ count

theorem sampleCrash_acknowledged : acknowledged (sampleEvents ++ [.crashed]) ≠ [] := by
  rw [acknowledged_snoc_none rfl]
  exact sample_acknowledged

/-- The file exists and its header is not yet written. -/
theorem sampleCrash_torn : HeaderTorn (sampleCrash 2) :=
  ⟨segmentName 1, ⟨[], ownStat sampleHost⟩, isSegmentName_segmentName 1, by decide +kernel,
    by decide⟩

/-- A crash in the middle of a header leaves a log that cannot be opened, although a record
was acknowledged. -/
theorem torn_header_prevents_recovery :
    ∃ events dir, Sessions sampleHost events ⟨none, dir⟩ /\ acknowledged events ≠ [] /\
      ¬ Recovers sampleHost dir (acknowledged events) 200 ⟨0, 0⟩ := by
  refine ⟨_, _, sampleCrash_run 2, sampleCrash_acknowledged, ?_⟩
  rintro ⟨gate, _, opened, _⟩
  rcases sampleCrash_torn.openGate_error sampleHost 200 ⟨0, 0⟩ with ⟨_, failed⟩
  rw [failed] at opened
  cases opened

/-- The frame is written and the anchor still names the record before it. -/
theorem sampleCrash_recovers_iff :
    Sessions sampleHost (sampleEvents ++ [.crashed]) ⟨none, sampleCrash 6⟩ /\
      acknowledged (sampleEvents ++ [.crashed]) ≠ [] /\
      (Recovers sampleHost (sampleCrash 6) (acknowledged (sampleEvents ++ [.crashed])) 200 ⟨0, 0⟩ <->
        Openable sampleHost (sampleCrash 6)) := by
  have outcome := recovers_iff_openable (sampleCrash_run 6) rfl 200 ⟨0, 0⟩
  dsimp only at outcome
  exact ⟨sampleCrash_run 6, sampleCrash_acknowledged, outcome⟩

end ControlVault.Audit
