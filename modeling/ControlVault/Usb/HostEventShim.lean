import ControlVault.Foundation.Bytes

namespace ControlVault.Usb

/-!
# The host event shim

The device asks for the time of the host on its interrupt endpoint, and the vendor
driver does not know this request.  The shim stands between the driver and the
library: it answers the request and reads again, at most eight times for a call.

What the pointers of a call lead to is part of the call; `none` is the null pointer.
The library and the clock may decide by everything that has happened.
-/

/-- What the data and the length lead to. -/
structure Memory where
  data : Option (List UInt8)
  actualLength : Option Int

structure InterruptCall where
  endpoint : UInt8
  length : Int
  timeout : Nat
  memory : Memory

structure TransferResult where
  status : Int
  memory : Memory

structure ControlRequest where
  (requestType request : UInt8)
  (value index : UInt16)
  timeout : Nat

/-- The broken-down time, in the unsigned numbers that its fields are converted to. -/
structure LocalTime where
  (mday mon year hour min sec : UInt32)

structure UsbHistory where
  transfers : List (InterruptCall × TransferResult)
  controls : List ControlRequest

/-- The history with one more interrupt transfer. -/
def UsbHistory.read (history : UsbHistory) (call : InterruptCall) (result : TransferResult) :
    UsbHistory :=
  { history with transfers := history.transfers ++ [(call, result)] }

/-- The library, whose two functions are looked up before they are used, and the clock. -/
structure Library where
  resolved : Bool
  interruptTransfer : UsbHistory -> InterruptCall -> TransferResult
  controlTransfer : UsbHistory -> ControlRequest -> Int
  localTime : UsbHistory -> Option LocalTime

/-- A buffer holds at least the bytes that were counted, so that four can be read. -/
def loadLe32 : List UInt8 -> Nat
  | first :: second :: third :: fourth :: _ =>
    first.toNat + second.toNat * 2 ^ 8 + third.toNat * 2 ^ 16 + fourth.toNat * 2 ^ 24
  | _ => 0

def packTimestamp (time : LocalTime) : UInt32 :=
  let year := time.year + 1900
  let yearSince2000 := if 2000 <= year then year - 2000 else 0
  let field (value mask shift : UInt32) := (value &&& mask) <<< shift
  field time.mday 0x1f 0 ||| field (time.mon + 1) 0x0f 5 ||| field yearSince2000 0x3f 9 |||
    field time.hour 0x1f 15 ||| field time.min 0x3f 20 ||| field time.sec 0x3f 26

def timestampSync (time : LocalTime) : ControlRequest :=
  ⟨0x40, 0x0d, (packTimestamp time).toUInt16, (packTimestamp time >>> 16).toUInt16, 3000⟩

/-- The history with one more answer to a request for the time. -/
def UsbHistory.sync (history : UsbHistory) (time : LocalTime) : UsbHistory :=
  { history with controls := history.controls ++ [timestampSync time] }

namespace Library

variable (lib : Library)

def sendTimestampSync (history : UsbHistory) : Int × UsbHistory :=
  match lib.localTime history with
  | none => (-99, history)
  | some time => (lib.controlTransfer history (timestampSync time), history.sync time)

/-- The loop, with the number of events that may still be handled. -/
def transferFrom : Nat -> InterruptCall -> UsbHistory -> TransferResult × UsbHistory
  | 0, call, history => (⟨-99, call.memory⟩, history)
  | left + 1, call, history =>
    let result := lib.interruptTransfer history call
    if result.status ≠ 0 ∨ call.endpoint ≠ 0x85 ∨ result.memory.actualLength.all (· < 4) ∨
        result.memory.data.all (loadLe32 · ≠ 5) then
      (result, history.read call result)
    else
      let (status, synced) := lib.sendTimestampSync (history.read call result)
      if status < 0 then (⟨status, result.memory⟩, synced)
      else transferFrom left { call with memory := result.memory } synced

def libusbInterruptTransfer (call : InterruptCall) (history : UsbHistory) :
    TransferResult × UsbHistory :=
  if !lib.resolved then (⟨-99, call.memory⟩, history) else lib.transferFrom 8 call history

/-- The calls of the driver, one after the other. -/
def run : List InterruptCall -> UsbHistory -> List TransferResult × UsbHistory
  | [], history => ([], history)
  | call :: rest, history =>
    let (result, after) := lib.libusbInterruptTransfer call history
    let (results, final) := run rest after
    (result :: results, final)

/-- The functions are found, the time is known, and the device takes it. -/
structure Answers : Prop where
  resolved : lib.resolved = true
  answered : ∀ history, ∃ time, lib.localTime history = some time /\
    0 <= lib.controlTransfer history (timestampSync time)

end Library

/-- The device asks for the time. -/
def isHostEvent (transfer : InterruptCall × TransferResult) : Bool :=
  transfer.2.status == 0 && transfer.1.endpoint == 0x85 &&
    transfer.2.memory.actualLength.any (4 <= ·) && transfer.2.memory.data.any (loadLe32 · == 5)

theorem passed_iff (call : InterruptCall) (result : TransferResult) :
    (result.status ≠ 0 ∨ call.endpoint ≠ 0x85 ∨ result.memory.actualLength.all (· < 4) ∨
      result.memory.data.all (loadLe32 · ≠ 5)) ↔ isHostEvent (call, result) = false := by
  rcases result with ⟨status, _ | bytes, _ | count⟩ <;>
    simp [isHostEvent, Decidable.imp_iff_not_or, or_assoc]

section

variable (lib : Library)

/-- What the library answers to the calls of the driver, one after the other.  Each result is the
answer of the library at its moment.  An event is followed by the time of its moment and by a
call that differs only in the memory, which the event has left; any other result ends its call. -/
inductive Served : List InterruptCall -> UsbHistory -> List (InterruptCall × TransferResult) ->
    List LocalTime -> UsbHistory -> Prop
  | done (history : UsbHistory) : Served [] history [] [] history
  | passed {call : InterruptCall} {calls : List InterruptCall} {history after : UsbHistory}
      {result : TransferResult} {transfers : List (InterruptCall × TransferResult)}
      {times : List LocalTime}
      (answer : lib.interruptTransfer history call = result)
      (other : isHostEvent (call, result) = false)
      (rest : Served calls (history.read call result) transfers times after) :
      Served (call :: calls) history ((call, result) :: transfers) times after
  | event {call : InterruptCall} {calls : List InterruptCall} {history after : UsbHistory}
      {result : TransferResult} {transfers : List (InterruptCall × TransferResult)}
      {time : LocalTime} {times : List LocalTime}
      (answer : lib.interruptTransfer history call = result)
      (asks : isHostEvent (call, result) = true)
      (known : lib.localTime (history.read call result) = some time)
      (rest : Served ({ call with memory := result.memory } :: calls)
        ((history.read call result).sync time) transfers times after) :
      Served (call :: calls) history ((call, result) :: transfers) (time :: times) after

/-- Of the results with which the library serves the calls the driver sees all but the events, and
each event is answered once. -/
def Hides (calls : List InterruptCall) (before after : UsbHistory) (seen : List TransferResult) :
    Prop :=
  ∃ transfers times, Served lib calls before transfers times after /\
    after = ⟨before.transfers ++ transfers, before.controls ++ times.map timestampSync⟩ /\
    seen = (transfers.filter (!isHostEvent ·)).map Prod.snd /\
    times.length = (transfers.filter isHostEvent).length

end

variable {lib : Library}

theorem Served.append {first second : List InterruptCall} {before middle after : UsbHistory}
    {transfers more : List (InterruptCall × TransferResult)} {times later : List LocalTime}
    (served : Served lib first before transfers times middle)
    (following : Served lib second middle more later after) :
    Served lib (first ++ second) before (transfers ++ more) (times ++ later) after := by
  induction served with
  | done => exact following
  | passed answer other _ ih => exact .passed answer other (ih following)
  | event answer asks known _ ih => exact .event answer asks known (ih following)

theorem Hides.trans {first second : List InterruptCall} {before middle after : UsbHistory}
    {early late : List TransferResult} (earlier : Hides lib first before middle early)
    (later : Hides lib second middle after late) :
    Hides lib (first ++ second) before after (early ++ late) := by
  rcases earlier with ⟨some, few, served, rfl, rfl, answered⟩
  rcases later with ⟨more, many, following, rfl, rfl, answeredLater⟩
  exact ⟨some ++ more, few ++ many, served.append following, by simp, by simp,
    by simp [answered, answeredLater]⟩

/-- An event in front of what is served stays hidden. -/
theorem Hides.event {call : InterruptCall} {history after : UsbHistory} {time : LocalTime}
    {seen : List TransferResult}
    (asks : isHostEvent (call, lib.interruptTransfer history call) = true)
    (known : lib.localTime
      (history.read call (lib.interruptTransfer history call)) = some time)
    (hides : Hides lib
      [{ call with memory := (lib.interruptTransfer history call).memory }]
      ((history.read call (lib.interruptTransfer history call)).sync time) after seen) :
    Hides lib [call] history after seen := by
  rcases hides with ⟨transfers, times, served, rfl, rfl, answered⟩
  refine ⟨_, _, .event rfl asks known served, ?_, ?_, ?_⟩
  · simp [UsbHistory.read, UsbHistory.sync]
  · simp [asks]
  · simp [asks, answered]

theorem transferFrom_other (left : Nat) {call : InterruptCall} {history : UsbHistory}
    (other : isHostEvent (call, lib.interruptTransfer history call) = false) :
    lib.transferFrom (left + 1) call history =
      (lib.interruptTransfer history call,
        history.read call (lib.interruptTransfer history call)) := by
  exact if_pos ((passed_iff _ _).mpr other)

theorem transferFrom_event (answers : lib.Answers) (left : Nat) {call : InterruptCall}
    {history : UsbHistory}
    (asks : isHostEvent (call, lib.interruptTransfer history call) = true) :
    let result := lib.interruptTransfer history call
    ∃ time, lib.localTime (history.read call result) = some time /\
      lib.transferFrom (left + 1) call history =
        lib.transferFrom left { call with memory := result.memory }
          ((history.read call result).sync time) := by
  intro result
  rcases answers.answered (history.read call result) with ⟨time, known, accepted⟩
  refine ⟨time, known, ?_⟩
  rw [Library.transferFrom, if_neg (by rw [passed_iff, asks]; decide)]
  simp only [Library.sendTimestampSync, result, known, if_neg (Int.not_lt.mpr accepted)]

/-- A call is served to its end, or it spends all its attempts on events. -/
theorem transferFrom_hides (answers : lib.Answers) (left : Nat) (call : InterruptCall)
    (history : UsbHistory) :
    Hides lib [call] history (lib.transferFrom left call history).2
        [(lib.transferFrom left call history).1] ∨
      ∃ events, events.length = left /\ (∀ event ∈ events, isHostEvent event = true) /\
        (lib.transferFrom left call history).2.transfers = history.transfers ++ events := by
  induction left generalizing call history with
  | zero => exact .inr ⟨[], by simp [Library.transferFrom]⟩
  | succ left ih =>
    cases asks : isHostEvent (call, lib.interruptTransfer history call) with
    | false =>
      rw [transferFrom_other left asks]
      refine .inl ⟨_, _, .passed rfl asks (.done _), ?_, ?_, ?_⟩
      · simp [UsbHistory.read]
      · simp [asks]
      · simp [asks]
    | true =>
      rcases transferFrom_event answers left asks with ⟨time, known, reads⟩
      rw [reads]
      rcases ih _ _ with hides | ⟨events, length, every, added⟩
      · exact .inl (hides.event asks known)
      · refine .inr ⟨_ :: events, by rw [List.length_cons, length], ?_,
          added.trans (List.append_assoc ..)⟩
        simpa [asks] using every

/-- While no eight events follow one another, the driver sees the results of the library
without the events.  Other endpoints are read by a single call. -/
theorem run_transparent (answers : lib.Answers) (calls : List InterruptCall) (history : UsbHistory)
    (bounded : ∀ events, events <:+: (lib.run calls history).2.transfers ->
      (∀ event ∈ events, isHostEvent event = true) -> events.length <= 7) :
    Hides lib calls history (lib.run calls history).2 (lib.run calls history).1 /\
      ∀ call history, call.endpoint ≠ 0x85 -> lib.libusbInterruptTransfer call history =
        (lib.interruptTransfer history call,
          history.read call (lib.interruptTransfer history call)) := by
  have direct : ∀ call history, lib.libusbInterruptTransfer call history =
      lib.transferFrom 8 call history := by
    simp [Library.libusbInterruptTransfer, answers.resolved]
  refine ⟨?_, fun call history other => ?_⟩
  · induction calls generalizing history with
    | nil => exact ⟨[], [], .done history, by simp [Library.run]⟩
    | cons call rest ih =>
      simp only [Library.run, direct] at bounded ⊢
      have later := ih _ bounded
      rcases transferFrom_hides answers 8 call history with hides | ⟨events, length, every, added⟩
      · exact hides.trans later
      · -- Eight events in a row are more than the results hold.
        rcases later with ⟨more, _, -, final, -⟩
        have := bounded events ⟨history.transfers, more, by rw [final, added]⟩ every
        omega
  · rw [direct]
    exact transferFrom_other 7 (by simp [isHostEvent, other])

namespace Sample

/-- A device that asks for the time once. -/
def asking : Library where
  resolved := true
  interruptTransfer history _ :=
    ⟨0, some [if history.controls.isEmpty then 5 else 0, 0, 0, 0], some 4⟩
  controlTransfer _ _ := 0
  localTime _ := some ⟨6, 8, 126, 14, 37, 42⟩

def calls : List InterruptCall :=
  [⟨0x85, 4, 2000, some [0, 0, 0, 0], some 0⟩]

def driven : List TransferResult × UsbHistory :=
  asking.run calls ⟨[], []⟩

end Sample

/-- The event is answered with a control transfer and hidden; the caller gets the transfer after it. -/
theorem sample_transparent :
    Hides Sample.asking Sample.calls ⟨[], []⟩ Sample.driven.2 Sample.driven.1 /\
      Sample.driven.2.transfers.length = 2 /\ Sample.driven.2.controls.length = 1 := by
  have answers : Sample.asking.Answers := ⟨rfl, fun _ => ⟨_, rfl, Int.le_refl 0⟩⟩
  refine ⟨(run_transparent answers _ _ ?_).1, rfl, rfl⟩
  intro events within _
  exact within.length_le.trans (by decide)

end ControlVault.Usb
