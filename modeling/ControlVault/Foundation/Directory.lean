import ControlVault.Foundation.Bytes
import ControlVault.Foundation.Table
import ControlVault.Foundation.Text

namespace ControlVault.Foundation

/-!
# One directory of a file system

A program that keeps a log works on the files of one directory by a handful of
operations.  What a call does to the directory is the list of the operations it
performs, so a crash in the middle of the call leaves the effect of a part of
the list: every operation before the crash took place, and if it hit a write,
any number of the bytes reached the file.
-/

structure FileStat where
  symlink : Bool
  (mode uid : Nat)
  deriving DecidableEq

structure StoredFile where
  content : Bytes
  stat : FileStat
  deriving DecidableEq

abbrev Directory := Table Text StoredFile

/-- The content after bytes were written at an offset; a hole reads as zeros. -/
def overwrite (content : Bytes) (offset : Nat) (bytes : Bytes) : Bytes :=
  content.take offset ++ List.replicate (offset - content.length) 0 ++ bytes ++
    content.drop (offset + bytes.length)

/-- The content after the length of the file was set. -/
def setLength (content : Bytes) (length : Nat) : Bytes :=
  content.take length ++ List.replicate (length - content.length) 0

inductive FileOperation
  /-- A file that did not exist is created, empty. -/
  | create (name : Text) (stat : FileStat)
  /-- A file is opened for writing and emptied; it is created if it did not exist. -/
  | openTruncated (name : Text) (stat : FileStat)
  | write (name : Text) (offset : Nat) (bytes : Bytes)
  | setLength (name : Text) (length : Nat)
  | rename (source target : Text)
  | sync (name : Text)
  | syncDirectory

namespace Directory

def apply (dir : Directory) : FileOperation -> Directory
  | .create name stat => dir.insert name ⟨[], stat⟩
  | .openTruncated name stat =>
    match dir.get name with
    | none => dir.insert name ⟨[], stat⟩
    | some file => dir.insert name { file with content := [] }
  | .write name offset bytes =>
    dir.modify name (fun file => { file with content := overwrite file.content offset bytes })
  | .setLength name length =>
    dir.modify name (fun file =>
      { file with content := Foundation.setLength file.content length })
  | .rename source target =>
    match dir.get source with
    | none => dir
    | some file => (dir.remove source).insert target file
  | .sync _ => dir
  | .syncDirectory => dir

def applyAll (dir : Directory) (ops : List FileOperation) : Directory :=
  ops.foldl apply dir

@[simp] theorem applyAll_nil (dir : Directory) : applyAll dir [] = dir :=
  rfl

@[simp] theorem applyAll_cons (dir : Directory) (op : FileOperation) (rest : List FileOperation) :
    applyAll dir (op :: rest) = applyAll (apply dir op) rest :=
  rfl

theorem applyAll_append (dir : Directory) (first second : List FileOperation) :
    applyAll dir (first ++ second) = applyAll (applyAll dir first) second :=
  List.foldl_append

/-- What a crash may leave of a list of operations. -/
inductive Interrupted : Directory -> List FileOperation -> Directory -> Prop
  | stopped (dir : Directory) (rest : List FileOperation) :
      Interrupted dir rest dir
  | torn (dir : Directory) (name : Text) (offset : Nat) (bytes : Bytes) (count : Nat)
      (rest : List FileOperation) :
      Interrupted dir (.write name offset bytes :: rest)
        (apply dir (.write name offset (bytes.take count)))
  | continued :
      Interrupted (apply dir op) rest left ->
        Interrupted dir (op :: rest) left

namespace Interrupted

/-- A crash happens in the first part of a list or after all of it. -/
theorem of_append (interrupted : Interrupted dir (first ++ second) left) :
    Interrupted dir first left ∨ Interrupted (applyAll dir first) second left := by
  induction first generalizing dir with
  | nil => exact .inr interrupted
  | cons op rest ih =>
    cases interrupted with
    | stopped => exact .inl (.stopped _ _)
    | torn => exact .inl (.torn ..)
    | continued later =>
      rcases ih later with early | late
      · exact .inl (.continued early)
      · exact .inr late

theorem of_nil (interrupted : Interrupted dir [] left) : left = dir := by
  cases interrupted
  rfl

/-- A crash between two operations. -/
theorem take (dir : Directory) (ops : List FileOperation) (count : Nat) :
    Interrupted dir ops (applyAll dir (ops.take count)) := by
  induction ops generalizing dir count with
  | nil =>
    rw [List.take_nil]
    exact .stopped _ _
  | cons op rest ih =>
    cases count with
    | zero => exact .stopped _ _
    | succ count => exact .continued (ih _ count)

/-- The completed list is one of the states a crash may leave. -/
theorem complete (dir : Directory) (ops : List FileOperation) :
    Interrupted dir ops (applyAll dir ops) := by
  induction ops generalizing dir with
  | nil => exact .stopped _ _
  | cons op rest ih => exact .continued (ih _)

end Interrupted

/-! ## Operations that fail

An operation may also fail while the program goes on.  A failed write has transferred some of its
bytes, every other failed operation has no effect.  A program that stops at the first failure leaves
a directory that a crash could have left. -/

structure Fault where
  transferred : Nat
  message : Text

/-- What a failed operation has done. -/
def failed (dir : Directory) (op : FileOperation) (fault : Fault) : Directory :=
  match op with
  | .write name offset bytes => apply dir (.write name offset (bytes.take fault.transferred))
  | _ => dir

section Attempt

variable {Point : Type} (faults : Point -> Option Fault)

/-- Perform operations up to the first one that fails. -/
def attempt : Directory -> List (Point × FileOperation) -> Except (Point × Fault) Unit × Directory
  | dir, [] => (.ok (), dir)
  | dir, (point, op) :: rest =>
    match faults point with
    | some fault => (.error (point, fault), failed dir op fault)
    | none => attempt (apply dir op) rest

variable {faults}

theorem attempt_interrupted (dir : Directory) (steps : List (Point × FileOperation)) :
    Interrupted dir (steps.map Prod.snd) (attempt faults dir steps).2 := by
  induction steps generalizing dir with
  | nil => exact .stopped _ _
  | cons step rest ih =>
    rcases step with ⟨point, op⟩
    rw [attempt]
    cases faults point with
    | some =>
      cases op with
      | write => exact .torn ..
      | _ => exact .stopped _ _
    | none => exact .continued (ih _)

theorem attempt_ok (succeeded : attempt faults dir steps = (.ok (), left)) :
    (∀ step ∈ steps, faults step.1 = none) /\ left = applyAll dir (steps.map Prod.snd) := by
  induction steps generalizing dir with
  | nil =>
    cases succeeded
    exact ⟨fun _ mem => (List.not_mem_nil mem).elim, rfl⟩
  | cons step rest ih =>
    rcases step with ⟨point, _⟩
    rw [attempt] at succeeded
    cases found : faults point with
    | some =>
      rw [found] at succeeded
      cases succeeded
    | none =>
      rw [found] at succeeded
      rcases ih succeeded with ⟨sound, same⟩
      exact ⟨List.forall_mem_cons.mpr ⟨found, sound⟩, same⟩

theorem attempt_error (stopped : attempt faults dir steps = (.error (point, fault), left)) :
    faults point = some fault /\ point ∈ steps.map Prod.fst := by
  induction steps generalizing dir with
  | nil => cases stopped
  | cons step rest ih =>
    rcases step with ⟨first, _⟩
    rw [attempt] at stopped
    cases found : faults first with
    | some =>
      rw [found] at stopped
      cases stopped
      exact ⟨found, List.mem_cons_self⟩
    | none =>
      rw [found] at stopped
      rcases ih stopped with ⟨located, mem⟩
      exact ⟨located, List.mem_cons_of_mem _ mem⟩

end Attempt

end Directory

end ControlVault.Foundation
