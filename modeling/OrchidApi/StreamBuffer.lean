import OrchidApi.Text

/-! `routers/_stream_buffer.py`: supervisor chunks are held back until the next event
shows whether they were a handoff or the final synthesis. -/
namespace OrchidApi
open Text

def handoffPreambles : List Str := [
  "here is the handoff message:".toList,
  "here is a brief handoff message:".toList,
  "here is a brief handoff message that summarises".toList,
  "handoff message:".toList]

/-- Strip the first matching preamble, then one pair of surrounding quotes. -/
def cleanHandoff (text : Str) : Str :=
  let stripped := strip text
  let cleaned :=
    match handoffPreambles.find? (startsWith (lower stripped)) with
    | some preamble => strip (stripped.drop preamble.length)
    | none => stripped
  if startsWith cleaned ['"'] && endsWith cleaned ['"'] then strip (cleaned.drop 1).dropLast
  else cleaned

theorem cleanHandoff_trimmed (text : Str) : Trimmed (cleanHandoff text) := by
  rw [cleanHandoff]
  split <;> split <;> exact trimmed_strip _

inductive TokenKind where
  | token
  | handoff
  deriving DecidableEq, Repr

structure BufferedToken where
  kind : TokenKind
  content : Str
  deriving DecidableEq, Repr

structure SupervisorTokenBuffer where
  chunks : List Str := []
  emittedPrefixes : List Str := []
  seenHandoffs : List Str := []
  deriving DecidableEq, Repr

namespace SupervisorTokenBuffer

def append (b : SupervisorTokenBuffer) (chunk : Str) : SupervisorTokenBuffer :=
  { b with chunks := b.chunks ++ [chunk] }

def clear (b : SupervisorTokenBuffer) : SupervisorTokenBuffer := { b with chunks := [] }

/-- The deduplication key is the first hundred characters. -/
def alreadyEmitted (b : SupervisorTokenBuffer) (content : Str) : Bool :=
  b.emittedPrefixes.contains (content.take 100)

def wouldDuplicate (b : SupervisorTokenBuffer) (content : Str) : Bool :=
  if b.chunks.isEmpty then false
  else if content == b.chunks.flatten || startsWith b.chunks.flatten content then true
  else b.chunks.getLast? == some content

def flushAsTokens (b : SupervisorTokenBuffer) : SupervisorTokenBuffer × List BufferedToken :=
  (b.clear, (b.chunks.filter fun chunk => !b.alreadyEmitted chunk).map (⟨.token, ·⟩))

/-- The shared tail of both handoff paths: suppress a repeat, else record and return it. -/
def recordHandoff (b : SupervisorTokenBuffer) (cleaned : Str) :
    SupervisorTokenBuffer × Option BufferedToken :=
  if cleaned.isEmpty || b.seenHandoffs.contains cleaned then (b, none)
  else ({ b with
      seenHandoffs := b.seenHandoffs.insert cleaned
      emittedPrefixes := b.emittedPrefixes.insert (cleaned.take 100) }, some ⟨.handoff, cleaned⟩)

def discardAsHandoff (b : SupervisorTokenBuffer) : SupervisorTokenBuffer × Option BufferedToken :=
  if (strip b.chunks.flatten).isEmpty then (b.clear, none)
  else b.clear.recordHandoff (cleanHandoff (strip b.chunks.flatten))

def recordInlineHandoff (b : SupervisorTokenBuffer) (content : Str) :
    SupervisorTokenBuffer × Option BufferedToken :=
  b.clear.recordHandoff (cleanHandoff ((afterFirst "] ".toList content).getD content))

/-- Everything held back is still fresh for the flush-time filter. -/
def Fresh (b : SupervisorTokenBuffer) : Prop := ∀ chunk ∈ b.chunks, b.alreadyEmitted chunk = false

@[simp] theorem append_chunks (b : SupervisorTokenBuffer) (chunk : Str) :
    (b.append chunk).chunks = b.chunks ++ [chunk] := rfl
@[simp] theorem append_emittedPrefixes (b : SupervisorTokenBuffer) (chunk : Str) :
    (b.append chunk).emittedPrefixes = b.emittedPrefixes := rfl
@[simp] theorem append_seenHandoffs (b : SupervisorTokenBuffer) (chunk : Str) :
    (b.append chunk).seenHandoffs = b.seenHandoffs := rfl
@[simp] theorem append_alreadyEmitted (b : SupervisorTokenBuffer) (chunk content : Str) :
    (b.append chunk).alreadyEmitted content = b.alreadyEmitted content := rfl
@[simp] theorem clear_chunks (b : SupervisorTokenBuffer) : b.clear.chunks = [] := rfl
@[simp] theorem clear_emittedPrefixes (b : SupervisorTokenBuffer) :
    b.clear.emittedPrefixes = b.emittedPrefixes := rfl

@[simp] theorem recordHandoff_chunks (b : SupervisorTokenBuffer) (cleaned : Str) :
    (b.recordHandoff cleaned).1.chunks = b.chunks := by
  unfold recordHandoff; split <;> rfl

@[simp] theorem discardAsHandoff_chunks (b : SupervisorTokenBuffer) :
    b.discardAsHandoff.1.chunks = [] := by
  unfold discardAsHandoff; split <;> simp

@[simp] theorem recordInlineHandoff_chunks (b : SupervisorTokenBuffer) (content : Str) :
    (b.recordInlineHandoff content).1.chunks = [] := by
  simp [recordInlineHandoff]

theorem fresh_of_empty (b : SupervisorTokenBuffer) (empty : b.chunks = []) : b.Fresh := by
  simp [Fresh, empty]

theorem append_fresh (b : SupervisorTokenBuffer) (chunk : Str) (fresh : b.Fresh)
    (new : b.alreadyEmitted chunk = false) : (b.append chunk).Fresh := by
  intro other member
  rcases List.mem_append.mp member with held | last
  · exact fresh other held
  · rw [List.mem_singleton.mp last]; exact new

/-- The flush-time filter drops nothing from a fresh buffer. -/
theorem flush_fresh (b : SupervisorTokenBuffer) (fresh : b.Fresh) :
    b.flushAsTokens.2 = b.chunks.map (⟨.token, ·⟩) := by
  have keep : b.chunks.filter (fun chunk => !b.alreadyEmitted chunk) = b.chunks :=
    List.filter_eq_self.mpr fun chunk member => by simp [fresh chunk member]
  simp [flushAsTokens, keep]

theorem recordHandoff_kind (b : SupervisorTokenBuffer) (cleaned : Str) (t : BufferedToken)
    (recorded : (b.recordHandoff cleaned).2 = some t) : t.kind = .handoff := by
  unfold recordHandoff at recorded
  split at recorded
  · contradiction
  · cases recorded; rfl

theorem discardAsHandoff_kind (b : SupervisorTokenBuffer) (t : BufferedToken)
    (recorded : b.discardAsHandoff.2 = some t) : t.kind = .handoff := by
  unfold discardAsHandoff at recorded
  split at recorded
  · contradiction
  · exact recordHandoff_kind _ _ t recorded

theorem recordInlineHandoff_kind (b : SupervisorTokenBuffer) (content : Str) (t : BufferedToken)
    (recorded : (b.recordInlineHandoff content).2 = some t) : t.kind = .handoff :=
  recordHandoff_kind _ _ t recorded

theorem wouldDuplicate_iff (b : SupervisorTokenBuffer) (content : Str) :
    b.wouldDuplicate content = true ↔
      b.chunks ≠ [] ∧ (content <+: b.chunks.flatten ∨ b.chunks.getLast? = some content) := by
  unfold wouldDuplicate
  by_cases empty : b.chunks = []
  · simp [empty]
  generalize b.chunks.flatten = combined
  have equal : content = combined → content <+: combined := fun same => same ▸ List.prefix_rfl
  by_cases covered : content <+: combined
  · simp [empty, covered]
  · have different : content ≠ combined := fun same => covered (equal same)
    simp [empty, covered, different]

end SupervisorTokenBuffer
end OrchidApi
