import ControlVault.Foundation.Bytes
import Mathlib.Data.List.Chain

namespace ControlVault.Hid

open Foundation List

/-!
# Reports of the host

The worker of an endpoint reads the reports of the host into one buffer and hands
the whole buffer to the protocol layer, whatever the length of the report was.  A
short report leaves the rest of the buffer as it was.
-/

/-- What a read of the device yields. -/
inductive Polled
  | output (data : Bytes)
  | otherEvent
  | empty
  | failed

inductive ReadOutcome
  | packet (length : Nat)
  | idle
  | failed

/-- The buffer behind a read, and what is left to read. -/
def readPacket (buffer : Bytes) : List Polled -> ReadOutcome × Bytes × List Polled
  | [] => (.idle, buffer, [])
  | .output data :: rest =>
    if data.length = 65 /\ data.head? = some 0 then (.packet 64, data.tail, rest)
    else if data.length <= 64 then (.packet data.length, data ++ buffer.drop data.length, rest)
    else readPacket buffer rest
  | .otherEvent :: rest => readPacket buffer rest
  | .empty :: rest => (.idle, buffer, rest)
  | .failed :: rest => (.failed, buffer, rest)

/-- The circumstances of one turn of the loop: the cancellation flag, and which response packets
can be written, or `none` if the protocol layer fails. -/
structure Turn where
  cancelled : Bool
  written : Option (List Bool)

inductive Ending
  | running
  | stopped
  | readError
  | writeError

/-- The packets that the protocol layer gets, and how the worker ends. -/
def runLoop : List Turn -> Bool -> Bytes -> List Polled -> List Bytes × Ending
  | [], _, _, _ => ([], .running)
  | turn :: turns, draining, buffer, polls =>
    let draining := draining || turn.cancelled
    match readPacket buffer polls with
    | (.packet _, buffer, polls) =>
      let (packets, ending) :=
        match turn.written with
        | some written =>
          if written.all id then runLoop turns draining buffer polls
          else ([], if draining then .stopped else .writeError)
        | none => if draining then ([], .stopped) else runLoop turns draining buffer polls
      (buffer :: packets, ending)
    | (.idle, buffer, polls) =>
      if draining then ([], .stopped) else runLoop turns draining buffer polls
    | (.failed, _, _) => ([], if draining then .stopped else .readError)

/-! ## The reports -/

/-- The bytes of a report that is not too long, without the report number. -/
def payload (data : Bytes) : Option Bytes :=
  if data.length = 65 /\ data.head? = some 0 then some data.tail
  else if data.length <= 64 then some data
  else none

def accepted (polls : List Polled) : List Bytes :=
  polls.filterMap fun
    | .output data => payload data
    | _ => none

def padded (data : Bytes) : Bytes :=
  data ++ replicate (64 - data.length) 0

/-- Where the later report does not reach, the earlier one is zero. -/
def Covers (first second : Bytes) : Prop :=
  ∀ byte ∈ first.drop second.length, byte = 0

theorem length_of_mem_accepted (mem : data ∈ accepted polls) : data.length <= 64 := by
  rcases mem_filterMap.mp mem with ⟨polled, -, found⟩
  cases polled with
  | output =>
    simp only [payload] at found
    split_ifs at found with numbered short
    · cases found
      simp [numbered.1]
    · cases found
      exact short
  | _ => cases found

/-- The buffer after each report. -/
def overlaid (buffer : Bytes) : List Bytes -> List Bytes
  | [] => []
  | data :: rest =>
    (data ++ buffer.drop data.length) :: overlaid (data ++ buffer.drop data.length) rest

/-- A read takes the next report of the device, or leaves the buffer alone. -/
inductive Reads (buffer : Bytes) (polls : List Polled) : ReadOutcome × Bytes × List Polled -> Prop
  | packet {data : Bytes} {length : Nat} {rest : List Polled} (short : data.length <= 64)
      (reports : accepted polls = data :: accepted rest) :
      Reads buffer polls (.packet length, data ++ buffer.drop data.length, rest)
  | idle (reports : accepted polls = accepted rest) :
      Reads buffer polls (.idle, buffer, rest)
  | failed : Reads buffer polls (.failed, buffer, rest)

variable {buffer first : Bytes}

theorem Reads.skip {rest : List Polled} {result : ReadOutcome × Bytes × List Polled}
    (reads : Reads buffer rest result) {polled : Polled}
    (skipped : accepted (polled :: rest) = accepted rest) : Reads buffer (polled :: rest) result := by
  cases reads with
  | packet short reports => exact .packet short (skipped.trans reports)
  | idle reports => exact .idle (skipped.trans reports)
  | failed => exact .failed

theorem readPacket_reads (full : buffer.length = 64) (polls : List Polled) :
    Reads buffer polls (readPacket buffer polls) := by
  induction polls with
  | nil => exact .idle rfl
  | cons polled rest ih =>
    cases polled with
    | output data =>
      rw [readPacket]
      split_ifs with numbered short
      · have length : data.tail.length = 64 := by simp [numbered.1]
        have whole : data.tail ++ buffer.drop data.tail.length = data.tail := by
          rw [length, <- full, drop_length, append_nil]
        rw [<- whole]
        exact .packet length.le (by simp [accepted, payload, numbered])
      · exact .packet short (by simp [accepted, payload, numbered, short])
      · exact ih.skip (by simp [accepted, payload, numbered, short])
    | otherEvent => exact ih.skip rfl
    | empty => exact .idle rfl
    | failed => exact .failed

/-- The protocol layer gets the buffer after each of the first reports. -/
theorem runLoop_prefix (turns : List Turn) (draining : Bool) (full : buffer.length = 64)
    (polls : List Polled) :
    (runLoop turns draining buffer polls).1 <+: overlaid buffer (accepted polls) := by
  induction turns generalizing draining buffer polls with
  | nil => exact nil_prefix
  | cons turn turns ih =>
    rw [runLoop]
    have reads := readPacket_reads full polls
    generalize readPacket buffer polls = result at reads
    cases reads with
    | @packet data _ rest short reports =>
      rw [reports]
      refine (prefix_cons_inj _).mpr ?_
      have whole : (data ++ buffer.drop data.length).length = 64 := by
        rw [length_append, length_drop]
        omega
      cases turn.written with
      | none =>
        split_ifs
        · exact nil_prefix
        · exact ih _ whole rest
      | some =>
        dsimp only
        split_ifs
        · exact ih _ whole rest
        · exact nil_prefix
        · exact nil_prefix
    | idle reports =>
      rw [reports]
      split_ifs
      · exact nil_prefix
      · exact ih _ full _
    | failed => exact nil_prefix

theorem overlaid_take (buffer : Bytes) (reports : List Bytes) (count : Nat) :
    (overlaid buffer reports).take count = overlaid buffer (reports.take count) := by
  induction reports generalizing buffer count with
  | nil => simp [overlaid]
  | cons data rest ih =>
    cases count with
    | zero => rfl
    | succ => simp [overlaid, ih]

theorem overlay_eq_padded_iff (short : first.length <= 64) :
    second ++ (padded first).drop second.length = padded second <-> Covers first second := by
  rw [padded, padded, append_cancel_left_eq, drop_append, drop_replicate, eq_replicate_iff]
  simp only [length_append, length_drop, length_replicate, mem_append, mem_replicate]
  constructor
  · rintro ⟨-, zero⟩ byte mem
    exact zero byte (.inl mem)
  · intro covers
    refine ⟨by omega, ?_⟩
    rintro byte (mem | ⟨-, zero⟩)
    · exact covers byte mem
    · exact zero

theorem overlaid_eq_padded_iff (short : ∀ data ∈ first :: reports, data.length <= 64) :
    overlaid (padded first) reports = reports.map padded <->
      (first :: reports).IsChain Covers := by
  induction reports generalizing first with
  | nil => simp [overlaid]
  | cons second rest ih =>
    rw [forall_mem_cons] at short
    rw [overlaid, map_cons, cons.injEq, overlay_eq_padded_iff short.1, isChain_cons_cons]
    refine and_congr_right ?_
    intro covers
    rw [(overlay_eq_padded_iff short.1).mpr covers]
    exact ih short.2

/-- The packets are the reports, each filled up with zeros, exactly if no report is followed by one
that leaves some of it standing. -/
theorem packets_separate_iff (turns : List Turn) (polls : List Polled) :
    let packets := (runLoop turns false (padded []) polls).1
    let reports := (accepted polls).take packets.length
    packets = reports.map padded <-> reports.IsChain Covers := by
  intro packets reports
  have same : packets = overlaid (padded []) reports := by
    rw [<- overlaid_take]
    apply prefix_iff_eq_take.mp
    exact runLoop_prefix turns false (by decide) polls
  have short : ∀ data ∈ [] :: reports, data.length <= 64 := by
    refine forall_mem_cons.mpr ⟨Nat.zero_le _, ?_⟩
    intro data mem
    exact length_of_mem_accepted (mem_of_mem_take mem)
  have start : ([] :: reports).IsChain Covers <-> reports.IsChain Covers := by
    cases reports with
    | nil => simp
    | cons => simp [Covers]
  rw [same, overlaid_eq_padded_iff short, start]

/-- The second report is one byte long, and its packet ends like the first. -/
theorem short_report_mixed :
    (runLoop [⟨false, some []⟩, ⟨false, some []⟩] false (padded [])
        [.output [1, 2], .output [3]]).1 = [padded [1, 2], padded [3, 2]] /\
      padded [3, 2] ≠ padded [3] := by
  decide

end ControlVault.Hid
