import ControlVault.Audit.Verified

namespace ControlVault.Audit

open Foundation Core List

/-!
# Logs on disk

Abstractly the log is one chain of frames, cut into segments.  On disk every
segment starts with a header that repeats what the chain has reached: the
position of the segment, the number of its first record and the hash before it.
`Laid` says that the files hold exactly this and nothing else.
-/

variable {host : Host} {dir : Directory}

/-- The header of a segment that continues a chain. -/
def headerAt (position first : Nat) (hash : Hash) : SegmentHeader :=
  ⟨schemaVersion, position, first, hash⟩

def segmentContent (env : Env) (position first : Nat) (hash : Hash)
    (frames : List DecodedFrame) : Bytes :=
  (headerAt position first hash).encode env ++ encodeFrames frames

/-- The header of the segment that follows others, and a file that begins with it. -/
abbrev headerAfter (before : List (List DecodedFrame)) : SegmentHeader :=
  headerAt before.length (1 + before.flatten.length) (finalHash 0 before.flatten)

abbrev contentAfter (env : Env) (before : List (List DecodedFrame))
    (frames : List DecodedFrame) : Bytes :=
  segmentContent env before.length (1 + before.flatten.length) (finalHash 0 before.flatten) frames

/-- The files of consecutive segments, from what the chain has reached before them. -/
inductive Laid (host : Host) (dir : Directory) :
    Nat -> Nat -> Hash -> List Text -> List (List DecodedFrame) -> Prop
  | nil (position first : Nat) (hash : Hash) : Laid host dir position first hash [] []
  | cons {hash : Hash} (header : (headerAt position first hash).Valid)
      (file : ∃ stat : FileStat, stat.symlink = false /\ dir.get name =
        some ⟨segmentContent host.env position first hash frames, stat⟩) :
      Laid host dir (position + 1) (first + frames.length) (finalHash hash frames) names segs ->
        Laid host dir position first hash (name :: names) (frames :: segs)

/-! ## Chains -/

@[simp] theorem finalHash_nil (hash : Hash) : finalHash hash [] = hash :=
  rfl

theorem finalHash_append (hash : Hash) (first second : List DecodedFrame) :
    finalHash hash (first ++ second) = finalHash (finalHash hash first) second :=
  foldl_append

@[simp] theorem finalHash_snoc (hash : Hash) (frames : List DecodedFrame) (frame : DecodedFrame) :
    finalHash hash (frames ++ [frame]) = frame.currentHash :=
  finalHash_append hash frames [frame]

theorem encodeFrames_append (first second : List DecodedFrame) :
    encodeFrames (first ++ second) = encodeFrames first ++ encodeFrames second :=
  flatMap_append

@[simp] theorem encodeFrames_singleton (frame : DecodedFrame) :
    encodeFrames [frame] = encodeFrame frame :=
  append_nil _

section Linked

variable {env : Env}

theorem linked_append :
    ∀ {hash : Hash} {sequence : Nat}, sequence < 2 ^ 64 ->
      (Linked env hash sequence (first ++ second) <->
        Linked env hash sequence first /\
          Linked env (finalHash hash first) ((sequence + first.length) % 2 ^ 64) second) := by
  induction first with
  | nil =>
    intro hash sequence bounded
    rw [length_nil, Nat.add_zero, Nat.mod_eq_of_lt bounded]
    exact ⟨fun linked => ⟨trivial, linked⟩, And.right⟩
  | cons frame rest ih =>
    intro hash sequence bounded
    have step := @ih frame.currentHash _ (Nat.mod_lt (sequence + 1) (by decide))
    have count : ((sequence + 1) % 2 ^ 64 + rest.length) % 2 ^ 64 =
        (sequence + (frame :: rest).length) % 2 ^ 64 := by
      rw [length_cons]
      omega
    rw [count] at step
    constructor
    · rintro ⟨complete, previousHash, number, later⟩
      rcases step.mp later with ⟨front, back⟩
      exact ⟨⟨complete, previousHash, number, front⟩, back⟩
    · rintro ⟨⟨complete, previousHash, number, front⟩, back⟩
      exact ⟨complete, previousHash, number, step.mpr ⟨front, back⟩⟩

variable {frames : List DecodedFrame}

theorem Linked.complete :
    ∀ {hash : Hash} {sequence : Nat}, Linked env hash sequence frames ->
      ∀ frame ∈ frames, frame.Sealed env := by
  induction frames with
  | nil =>
    intro _ _ _ frame mem
    cases mem
  | cons head rest ih =>
    rintro hash sequence ⟨complete, _, _, later⟩ frame mem
    rcases mem_cons.mp mem with rfl | inside
    · exact complete
    · exact ih later frame inside

theorem Linked.numbers :
    ∀ {hash : Hash} {sequence : Nat}, Linked env hash sequence frames ->
      sequence + frames.length <= 2 ^ 64 ->
        frames.map DecodedFrame.sequence = range' sequence frames.length := by
  induction frames with
  | nil =>
    intro _ _ _ _
    rfl
  | cons head rest ih =>
    rintro hash sequence ⟨_, _, number, later⟩ inRange
    rw [map_cons, length_cons, range'_succ, number]
    rw [length_cons] at inRange
    cases rest with
    | nil => rfl
    | cons =>
      rw [length_cons] at inRange
      have same : (sequence + 1) % 2 ^ 64 = sequence + 1 := Nat.mod_eq_of_lt (by omega)
      rw [same] at later
      rw [ih later (by rw [length_cons]; omega)]

theorem Linked.number_at :
    ∀ {hash : Hash} {sequence place : Nat} {frame : DecodedFrame}, sequence < 2 ^ 64 ->
      Linked env hash sequence frames -> frames[place]? = some frame ->
        frame.sequence = (sequence + place) % 2 ^ 64 := by
  induction frames with
  | nil =>
    intro _ _ _ _ _ _ found
    cases found
  | cons head rest ih =>
    rintro hash sequence place frame bounded ⟨_, _, number, later⟩ found
    cases place with
    | zero =>
      cases found
      rw [number, Nat.add_zero, Nat.mod_eq_of_lt bounded]
    | succ place =>
      rw [ih (Nat.mod_lt _ (by decide)) later found]
      omega

theorem Linked.lastNumber {hash : Hash} {sequence : Nat}
    (linked : Linked env hash sequence frames) (inRange : sequence + frames.length <= 2 ^ 64) :
    frames.getLast?.map DecodedFrame.sequence =
      if frames = [] then none else some (sequence + frames.length - 1) := by
  have numbers := linked.numbers inRange
  rw [<- getLast?_map, numbers, getLast?_range']
  cases frames with
  | nil => rfl
  | cons => simp

end Linked

end ControlVault.Audit
