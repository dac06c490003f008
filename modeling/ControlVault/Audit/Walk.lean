import ControlVault.Audit.Segments

namespace ControlVault.Audit

open Foundation Core List

/-!
# What the loops over a segment find

`Walked` lists the frames between two positions of a chain, each with the bytes
it was read from.  The strict and the tolerant loop follow it as far as it goes;
they differ in what they do at its end.  Frames that were encoded one after
another are walked from the first to the last.
-/

variable {left : Bytes} {finish : ChainCursor} {pieces : List Piece} {rest : Bytes}
  {cursor : ChainCursor} {host : Host}

/-! ## One frame -/

variable {later raw : Bytes} {frame : DecodedFrame} {env : Env} {count : Nat}

theorem readFrame_frame (read : readFrame rest = .frame raw later) :
    rest = raw ++ later /\ raw.length = 12 + ofLittleEndian (slice raw 4 8) /\
      104 <= raw.length /\ raw.length <= 12 + maxFrameSize := by
  rw [readFrame, readFrameIn] at read
  dsimp only at read
  generalize size : ofLittleEndian (slice rest 4 8) = frameLen at read
  split_ifs at read with short magic noLength badLength incomplete
  cases read
  have length : (rest.take (12 + frameLen)).length = 12 + frameLen := by
    rw [List.length_take]
    omega
  have inside : slice (rest.take (12 + frameLen)) 4 8 = slice rest 4 8 := by
    rw [slice, drop_take, take_take]
    congr 1
    omega
  rw [frameOverhead] at badLength
  rw [length, inside, size]
  exact ⟨(take_append_drop _ _).symm, rfl, by omega, by omega⟩

section

variable (exact : raw.length = 12 + ofLittleEndian (slice raw 4 8))
  (decoded : decodeFrame env raw = .ok frame)

include exact decoded

/-- A frame that decodes is sealed; its bytes are its encoding and perhaps a rest
behind the hashes that its length field covers. -/
theorem decodeFrame_ok :
    frame.Sealed env /\ ∃ slack, raw = littleEndian 4 frameMagic ++
      (littleEndian 8 (frameOverhead + frame.payload.length + slack.length) ++
        (frame.body ++ slack)) := by
  rw [decodeFrame] at decoded
  dsimp only at decoded
  generalize size : ofLittleEndian (slice raw 4 8) = frameLen at decoded exact
  have body : slice raw 12 frameLen = raw.drop 12 := by
    rw [slice, take_of_length_le]
    rw [length_drop]
    omega
  have bodyLength : (raw.drop 12).length = frameLen := by
    rw [length_drop]
    omega
  rw [body] at decoded
  split_ifs at decoded with short magic badLength _ large incomplete badHash
  cases decoded
  have sizeBytes := littleEndian_slice (show 4 + 8 <= raw.length by omega)
  have magicBytes := littleEndian_slice (show 0 + 4 <= raw.length by omega)
  rw [size] at sizeBytes
  rw [not_not.mp magic] at magicBytes
  rcases DecodedFrame.body_readBody (not_lt.mp incomplete) with ⟨joined, payload⟩
  refine ⟨⟨?_, ?_, ?_, ?_, not_not.mp badHash⟩, (raw.drop 12).drop (92 + payloadLength (raw.drop 12)), ?_⟩
  · exact ofLittleEndian_slice_lt (by omega)
  · exact ofLittleEndian_slice_lt (by omega)
  · exact ofLittleEndian_slice_lt (by omega)
  · rw [payload]
    exact not_lt.mp large
  · have total : frameOverhead + (readBody (raw.drop 12)).payload.length +
        ((raw.drop 12).drop (92 + payloadLength (raw.drop 12))).length = frameLen := by
      rw [length_drop, frameOverhead]
      omega
    rw [total, joined, sizeBytes, magicBytes, slice_append_drop raw 4 8, slice_append_drop raw 0 4,
      drop_zero]

/-- Bytes that decode as a frame and are as long as its fields are its encoding. -/
theorem eq_encodeFrame (unpadded : raw.length = 12 + (frameOverhead + frame.payload.length)) :
    raw = encodeFrame frame := by
  rcases decodeFrame_ok exact decoded with ⟨_, slack, shape⟩
  have length := congrArg List.length shape
  simp only [List.length_append, length_littleEndian, DecodedFrame.length_body] at length
  have empty : slack = [] := length_eq_zero_iff.mp (by omega)
  rw [shape, empty, append_nil]
  rfl

end

theorem readFrame_encodeFrame (complete : frame.Sealed env) (rest : Bytes) :
    readFrame (encodeFrame frame ++ rest) = .frame (encodeFrame frame) rest := by
  have small : frame.payload.length <= 65536 := complete.payload
  have length := DecodedFrame.length_encodeFrame frame
  have total : (encodeFrame frame ++ rest).length =
      12 + (frameOverhead + frame.payload.length) + rest.length := by
    rw [List.length_append, length]
  rw [readFrame, readFrameIn, if_neg (by omega),
    if_neg (not_not_intro (frame.magic_encodeFrame rest)), if_neg (by omega)]
  simp only [DecodedFrame.size_encodeFrame (show frame.payload.length < 2 ^ 63 by omega) rest,
    if_neg (DecodedFrame.sized_encodeFrame complete.payload)]
  rw [if_neg (by omega), <- length, take_left, drop_left]

theorem lengthField_take {bytes : Bytes} (split : bytes.take count = raw ++ later)
    (long : 12 <= raw.length) :
    slice raw 4 8 = slice bytes 4 8 := by
  have start : bytes = raw ++ (later ++ bytes.drop count) := by
    rw [<- append_assoc, <- split, take_append_drop]
  have front : slice (raw ++ (later ++ bytes.drop count)) 4 8 = slice raw 4 8 := by
    rw [slice, slice, drop_append_of_le_length (by omega), take_append_of_le_length]
    rw [length_drop]
    omega
  rw [<- front, <- start]

theorem readFrame_torn (complete : frame.Sealed env)
    (part : count < (encodeFrame frame).length) (raw later : Bytes) :
    readFrame ((encodeFrame frame).take count) ≠ .frame raw later := by
  intro read
  rcases readFrame_frame read with ⟨split, exact, _, _⟩
  have whole := readFrame_frame (readFrame_encodeFrame complete [])
  have length : ((encodeFrame frame).take count).length = count := by
    rw [List.length_take]
    omega
  have within := congrArg List.length split
  rw [List.length_append] at within
  rw [lengthField_take split (by omega)] at exact
  omega

theorem readFrame_overlong (long : maxPayloadSize < frame.payload.length)
    (allocated : frame.payload.length < 2 ^ 63) (count : Nat) (raw later : Bytes) :
    readFrame ((encodeFrame frame).take count) ≠ .frame raw later := by
  intro read
  rcases readFrame_frame read with ⟨split, exact, _, _⟩
  have size := DecodedFrame.size_encodeFrame allocated []
  rw [append_nil] at size
  rw [lengthField_take split (by omega)] at exact
  rw [maxFrameSize] at *
  omega

/-! ## Chains of frames -/

/-- Frames that continue a chain: each is sealed, carries the hash before it and the next number. -/
def Linked (env : Env) : Hash -> Nat -> List DecodedFrame -> Prop
  | _, _, [] => True
  | hash, sequence, frame :: rest =>
    frame.Sealed env /\ frame.previousHash = hash /\ frame.sequence = sequence /\
      Linked env frame.currentHash ((sequence + 1) % 2 ^ 64) rest

/-- The hash that a chain has reached. -/
def finalHash (hash : Hash) (frames : List DecodedFrame) : Hash :=
  frames.foldl (fun _ frame => frame.currentHash) hash

def encodeFrames (frames : List DecodedFrame) : Bytes :=
  frames.flatMap encodeFrame

/-- A frame together with the bytes it was read from. -/
structure Piece where
  raw : Bytes
  frame : DecodedFrame

/-- The bytes and frames between two positions of a chain. -/
inductive Walked (host : Host) : ChainCursor -> Bytes -> List Piece -> ChainCursor -> Bytes -> Prop
  | stop (cursor : ChainCursor) (rest : Bytes) : Walked host cursor rest [] cursor rest
  | step {cursor finish : ChainCursor} {rest later left raw : Bytes} {frame : DecodedFrame}
      {pieces : List Piece} :
      readRecord host cursor rest = .record raw frame later ->
        Walked host (cursor.advance frame raw.length) later pieces finish left ->
          Walked host cursor rest (⟨raw, frame⟩ :: pieces) finish left

/-- The loops cannot go on from here. -/
def Stuck (host : Host) (cursor : ChainCursor) (left : Bytes) : Prop :=
  ∀ raw frame later, readRecord host cursor left ≠ .record raw frame later

theorem readRecord_record (read : readRecord host cursor rest = .record raw frame later) :
    readFrame rest = .frame raw later /\ decodeFrame host.env raw = .ok frame /\
      frame.previousHash = cursor.lastHash /\ frame.sequence = cursor.expectedSequence := by
  unfold readRecord at read
  split at read
  · cases read
  · cases read
  · rename_i bytes
    split at read
    · cases read
    · rename_i decoded
      split_ifs at read with badHash gap
      cases read
      exact ⟨bytes, decoded, not_not.mp badHash, not_not.mp gap⟩

theorem readRecord_encodeFrame (complete : frame.Sealed host.env)
    (previousHash : frame.previousHash = cursor.lastHash)
    (sequence : frame.sequence = cursor.expectedSequence) (rest : Bytes) :
    readRecord host cursor (encodeFrame frame ++ rest) = .record (encodeFrame frame) frame rest := by
  have decoded := DecodedFrame.decodeFrame_encodeFrame _ complete []
  rw [append_nil] at decoded
  rw [readRecord, readFrame_encodeFrame complete]
  dsimp only
  rw [decoded]
  dsimp only
  rw [if_neg (not_not_intro previousHash), if_neg (not_not_intro sequence)]

theorem stuck_of_readFrame (cursor : ChainCursor)
    (noFrame : ∀ raw later, readFrame left ≠ .frame raw later) : Stuck host cursor left :=
  fun raw _ later read => noFrame raw later (readRecord_record read).1

theorem readFrame_short (short : left.length < 4) : readFrame left = .endOfFile :=
  if_pos short

theorem stuck_of_short (cursor : ChainCursor) (short : left.length < 4) :
    Stuck host cursor left := by
  apply stuck_of_readFrame
  intro raw later read
  rw [readFrame_short short] at read
  cases read

namespace Walked

section

variable (walked : Walked host cursor rest pieces finish left)

include walked

theorem bytes : rest = pieces.flatMap Piece.raw ++ left := by
  induction walked with
  | stop => rfl
  | step read _ ih =>
    rw [(readFrame_frame (readRecord_record read).1).1, flatMap_cons, append_assoc, <- ih]

theorem offset : finish.offset = cursor.offset + (pieces.flatMap Piece.raw).length := by
  induction walked with
  | stop => rfl
  | step _ _ ih =>
    rw [ih, flatMap_cons, List.length_append, <- Nat.add_assoc]
    rfl

theorem linked :
    Linked host.env cursor.lastHash cursor.expectedSequence (pieces.map Piece.frame) := by
  induction walked with
  | stop => trivial
  | step read _ ih =>
    rcases readRecord_record read with ⟨bytes, decoded, previousHash, sequence⟩
    exact ⟨(decodeFrame_ok (readFrame_frame bytes).2.1 decoded).1, previousHash, sequence, ih⟩

theorem lastHash : finish.lastHash = finalHash cursor.lastHash (pieces.map Piece.frame) := by
  induction walked with
  | stop => rfl
  | step _ _ ih => exact ih

/-- The last number seen is the one of the last frame, or the starting value. -/
theorem sequence :
    finish.sequence = ((pieces.map Piece.frame).getLast?.map DecodedFrame.sequence).getD
      cursor.sequence := by
  induction walked with
  | stop => rfl
  | @step _ _ _ _ _ raw frame pieces read _ ih =>
    rw [ih, map_cons, getLast?_cons]
    cases (pieces.map Piece.frame).getLast? <;> rfl

theorem piece {piece : Piece} (mem : piece ∈ pieces) :
    piece.raw.length = 12 + ofLittleEndian (slice piece.raw 4 8) /\ 104 <= piece.raw.length /\
      decodeFrame host.env piece.raw = .ok piece.frame := by
  induction walked with
  | stop => cases mem
  | step read _ ih =>
    rcases mem_cons.mp mem with rfl | later
    · rcases readRecord_record read with ⟨bytes, decoded, _, _⟩
      rcases readFrame_frame bytes with ⟨_, exact, long, _⟩
      exact ⟨exact, long, decoded⟩
    · exact ih later

/-- Where the walk must end is determined. -/
theorem unique (stuck : Stuck host finish left)
    (other : Walked host cursor rest otherPieces otherFinish otherLeft)
    (otherStuck : Stuck host otherFinish otherLeft) :
    pieces = otherPieces /\ finish = otherFinish /\ left = otherLeft := by
  induction walked generalizing otherPieces with
  | stop =>
    cases other with
    | stop => exact ⟨rfl, rfl, rfl⟩
    | step read _ => exact absurd read (stuck _ _ _)
  | step read _ ih =>
    cases other with
    | stop => exact absurd read (otherStuck _ _ _)
    | step otherRead further =>
      rw [read] at otherRead
      cases otherRead
      rcases ih stuck further with ⟨rfl, rfl, rfl⟩
      exact ⟨rfl, rfl, rfl⟩

end

end Walked

/-! ## The loops -/

variable {fuel : Nat}

/-- A record takes at least one byte, so the length of the rest bounds the number of rounds. -/
private theorem fuel_left (enough : rest.length <= fuel)
    (read : readRecord host cursor rest = .record raw frame later) :
    ∃ less, fuel = less + 1 /\ later.length <= less := by
  rcases readFrame_frame (readRecord_record read).1 with ⟨split, _, _⟩
  have length := congrArg List.length split
  rw [List.length_append] at length
  exact ⟨fuel - 1, by omega, by omega⟩

theorem walkValid_spec (fuel : Nat) : ∀ {cursor : ChainCursor} {rest : Bytes}, rest.length <= fuel ->
    ∃ pieces left, Walked host cursor rest pieces (walkValid host fuel cursor rest) left /\
      Stuck host (walkValid host fuel cursor rest) left := by
  induction fuel with
  | zero =>
    intro cursor rest enough
    exact ⟨[], rest, .stop cursor rest, stuck_of_short _ (by omega)⟩
  | succ fuel ih =>
    intro cursor rest enough
    rw [walkValid]
    cases read : readRecord host cursor rest with
    | endOfFile | failed =>
      refine ⟨[], rest, .stop cursor rest, ?_⟩
      intro raw frame later found
      rw [read] at found
      cases found
    | record =>
      rcases fuel_left enough read with ⟨_, ⟨⟩, fewer⟩
      rcases ih fewer with ⟨_, left, walked, stuck⟩
      exact ⟨_, left, .step read walked, stuck⟩

/-- From every position there is one longest walk. -/
theorem exists_walked (host : Host) (cursor : ChainCursor) (rest : Bytes) :
    ∃ pieces finish left, Walked host cursor rest pieces finish left /\ Stuck host finish left := by
  rcases walkValid_spec rest.length (le_refl _) with ⟨pieces, left, walked, stuck⟩
  exact ⟨pieces, _, left, walked, stuck⟩

theorem walkValid_of_walked
    (walked : Walked host cursor rest pieces finish left) (stuck : Stuck host finish left)
    (enough : rest.length <= fuel) :
    walkValid host fuel cursor rest = finish := by
  rcases walkValid_spec fuel enough with ⟨_, _, found, foundStuck⟩
  exact (found.unique foundStuck walked stuck).2.1

theorem readFrame_endOfFile (read : readFrame rest = .endOfFile) : rest.length < 4 := by
  by_contra long
  rw [readFrame, readFrameIn] at read
  dsimp only at read
  split_ifs at read

theorem readRecord_endOfFile
    (read : readRecord host cursor rest = .endOfFile) : rest.length < 4 := by
  rw [readRecord] at read
  cases bytes : readFrame rest with
  | endOfFile => exact readFrame_endOfFile bytes
  | failed error =>
    rw [bytes] at read
    cases read
  | frame =>
    rw [bytes] at read
    dsimp only at read
    split at read
    · cases read
    · split_ifs at read

theorem walkStrict_ok (fuel : Nat) : ∀ {cursor finish : ChainCursor} {rest : Bytes},
    rest.length <= fuel -> walkStrict host fuel cursor rest = .ok finish ->
      ∃ pieces left, Walked host cursor rest pieces finish left /\ left.length < 4 := by
  induction fuel with
  | zero =>
    intro cursor finish rest enough result
    cases result
    exact ⟨[], rest, .stop cursor rest, by omega⟩
  | succ fuel ih =>
    intro cursor finish rest enough result
    rw [walkStrict] at result
    cases read : readRecord host cursor rest with
    | endOfFile =>
      rw [read] at result
      cases result
      exact ⟨[], rest, .stop cursor rest, readRecord_endOfFile read⟩
    | failed error =>
      rw [read] at result
      cases result
    | record =>
      rw [read] at result
      rcases fuel_left enough read with ⟨_, ⟨⟩, fewer⟩
      rcases ih fewer result with ⟨_, left, walked, short⟩
      exact ⟨_, left, .step read walked, short⟩

section

variable (walked : Walked host cursor rest pieces finish left) (short : left.length < 4)
  (enough : rest.length <= fuel)

include walked short enough

theorem walkStrict_of_walked : walkStrict host fuel cursor rest = .ok finish := by
  induction walked generalizing fuel with
  | stop =>
    cases fuel with
    | zero => rfl
    | succ fuel =>
      rw [walkStrict, readRecord, readFrame_short short]
  | step read walked ih =>
    rcases fuel_left enough read with ⟨less, rfl, fewer⟩
    rw [walkStrict, read]
    exact ih short fewer

theorem countFrames_of_walked (count : Nat) :
    countFrames fuel count rest = .ok (count + pieces.length) := by
  induction walked generalizing fuel count with
  | stop =>
    cases fuel with
    | zero => rfl
    | succ fuel =>
      rw [countFrames, readFrame_short short]
      rfl
  | step read walked ih =>
    rcases fuel_left enough read with ⟨less, rfl, fewer⟩
    rw [countFrames, (readRecord_record read).1]
    dsimp only
    rw [ih short fewer, length_cons]
    congr 1
    omega

end

/-- The place that reads a frame only shows in errors. -/
theorem readFrameIn_frame (place : Text) (read : readFrame rest = .frame raw later) :
    readFrameIn place rest = .frame raw later := by
  rw [readFrame, readFrameIn] at read
  rw [readFrameIn]
  dsimp only at read ⊢
  split_ifs at read ⊢
  exact read

theorem exportFrames_of_walked (walked : Walked host cursor rest pieces finish left)
    (short : left.length < 4) (enough : rest.length <= fuel) :
    exportFrames host fuel rest = .ok (pieces.map Piece.frame) := by
  induction walked generalizing fuel with
  | stop =>
    cases fuel with
    | zero => rfl
    | succ fuel => rw [exportFrames, readFrameIn, if_pos short, map_nil]
  | step read walked ih =>
    rcases fuel_left enough read with ⟨less, rfl, fewer⟩
    rw [exportFrames, readFrameIn_frame _ (readRecord_record read).1]
    dsimp only
    rw [(readRecord_record read).2.1, ih short fewer]
    rfl

/-! ## Encoded frames -/

/-- The cursor behind encoded frames. -/
def ChainCursor.after (cursor : ChainCursor) (frames : List DecodedFrame) : ChainCursor :=
  frames.foldl (fun cursor frame => cursor.advance frame (encodeFrame frame).length) cursor

def encodedPiece (frame : DecodedFrame) : Piece :=
  ⟨encodeFrame frame, frame⟩

theorem walked_encodeFrames (left : Bytes) :
    ∀ {cursor : ChainCursor},
      Linked host.env cursor.lastHash cursor.expectedSequence frames ->
        Walked host cursor (encodeFrames frames ++ left) (frames.map encodedPiece)
          (cursor.after frames) left := by
  induction frames with
  | nil =>
    intro cursor _
    exact .stop cursor left
  | cons frame rest ih =>
    intro cursor linked
    rcases linked with ⟨complete, previousHash, sequence, later⟩
    rw [encodeFrames, flatMap_cons, append_assoc]
    exact .step (readRecord_encodeFrame complete previousHash sequence _) (ih later)

@[simp] theorem flatMap_encodedPiece (frames : List DecodedFrame) :
    (frames.map encodedPiece).flatMap Piece.raw = encodeFrames frames :=
  flatMap_map ..

@[simp] theorem map_encodedPiece (frames : List DecodedFrame) :
    (frames.map encodedPiece).map Piece.frame = frames := by
  rw [map_map]
  exact map_id frames

end ControlVault.Audit
