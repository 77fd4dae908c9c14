import OrchidApi.Text
import OrchidApi.Transducer

/-! The event-stream grammar: a stream is lines, a line is a field, an empty line ends an
event. Fields that change neither the name nor the data of an event are not kept. -/
namespace EventStream
open Text

structure Event where
  name : Str
  data : Str
  deriving DecidableEq, Repr

/-- The lines of a stream without their ends, of which `current` is begun; an unfinished
last line is none. -/
def lines (current : Str) : Str → List Str
  | [] => []
  | '\r' :: '\n' :: rest => current :: lines [] rest
  | '\r' :: rest => current :: lines [] rest
  | '\n' :: rest => current :: lines [] rest
  | c :: rest => lines (current ++ [c]) rest

/-- The name before the first colon, and the value without one leading blank. -/
def field (line : Str) : Str × Str :=
  (line.takeWhile (· ≠ ':'), removePrefix [' '] ((line.dropWhile (· ≠ ':')).drop 1))

/-- The buffers of the event that is being read; each data line ends with a line feed. -/
structure Block where
  name : Str := []
  data : Str := []

def readLine (block : Block) (line : Str) : Block × List Event :=
  if line.isEmpty then
    ({}, if block.data.isEmpty then [] else [⟨block.name, block.data.dropLast⟩])
  else
    let (name, value) := field line
    if name = "event".toList then ({ block with name := value }, [])
    else if name = "data".toList then ({ block with data := block.data ++ value ++ ['\n'] }, [])
    else (block, [])

/-- The events of a decoded stream, which a byte order mark may precede. -/
def parse (stream : Str) : List Event :=
  (Transducer.run readLine {} (lines [] (removePrefix ['\ufeff'] stream))).2

/-- An event written with one data line, and with a name line where it is named. -/
def write (name : Option Str) (data : Str) : Str :=
  (name.map fun name => "event: ".toList ++ name ++ ['\n']).getD [] ++
    ("data: ".toList ++ data ++ ['\n', '\n'])

def OneLine (s : Str) : Prop := '\r' ∉ s ∧ '\n' ∉ s

instance (s : Str) : Decidable (OneLine s) := inferInstanceAs (Decidable ('\r' ∉ s ∧ '\n' ∉ s))

theorem lines_line {line : Str} (one : OneLine line) (current rest : Str) :
    lines current (line ++ '\n' :: rest) = (current ++ line) :: lines [] rest := by
  induction line generalizing current with
  | nil => simp [lines]
  | cons c line ih =>
    obtain ⟨cr, lf⟩ := one
    rw [List.mem_cons, not_or] at cr lf
    rw [List.cons_append, lines.eq_5 _ _ _ (fun _ same => absurd same.symm cr.1)
      (fun same => absurd same.symm cr.1) (fun same => absurd same.symm lf.1), ih ⟨cr.2, lf.2⟩]
    simp

theorem OneLine.append {s t : Str} (first : OneLine s) (second : OneLine t) : OneLine (s ++ t) :=
  ⟨fun member => (List.mem_append.mp member).elim first.1 second.1,
    fun member => (List.mem_append.mp member).elim first.2 second.2⟩

theorem field_named {name : Str} (plain : ':' ∉ name) (value : Str) :
    field (name ++ ':' :: ' ' :: value) = (name, value) := by
  have other : ∀ c ∈ name, decide (c ≠ ':') = true := fun c member =>
    decide_eq_true fun same => plain (same ▸ member)
  rw [field, List.takeWhile_append_of_pos other, List.dropWhile_append_of_pos other]
  simp [removePrefix, startsWith]

@[simp] theorem readLine_empty (block : Block) : readLine block [] =
    ({}, if block.data.isEmpty then [] else [⟨block.name, block.data.dropLast⟩]) := rfl

@[simp] theorem readLine_event (block : Block) (name : Str) :
    readLine block ("event: ".toList ++ name) = ({ block with name }, []) := by
  have read : field ("event: ".toList ++ name) = ("event".toList, name) :=
    field_named (by decide : ':' ∉ "event".toList) name
  rw [readLine, read]
  rfl

@[simp] theorem readLine_data (block : Block) (data : Str) :
    readLine block ("data: ".toList ++ data) =
      ({ block with data := block.data ++ data ++ ['\n'] }, []) := by
  have read : field ("data: ".toList ++ data) = ("data".toList, data) :=
    field_named (by decide : ':' ∉ "data".toList) data
  rw [readLine, read]
  rfl

/-- A data line and the empty line after it end the event. -/
theorem run_data {data : Str} (one : OneLine data) (name rest : Str) :
    Transducer.run readLine { name } (lines [] ("data: ".toList ++ data ++ '\n' :: '\n' :: rest)) =
      ((Transducer.run readLine {} (lines [] rest)).1,
        ⟨name, data⟩ :: (Transducer.run readLine {} (lines [] rest)).2) := by
  have line : OneLine ("data: ".toList ++ data) := (by decide : OneLine "data: ".toList).append one
  have blank : lines [] ('\n' :: rest) = [] :: lines [] rest :=
    lines_line (by decide : OneLine []) [] rest
  have kept : ([] ++ data ++ ['\n']).isEmpty = false ∧ ([] ++ data ++ ['\n']).dropLast = data := by
    simp
  rw [lines_line line, blank, List.nil_append]
  simp only [Transducer.run, readLine_data, readLine_empty, kept.1, kept.2]
  rfl

/-- What the lines of one written event do. -/
theorem run_write {name : Option Str} {data : Str} (named : ∀ n ∈ name, OneLine n)
    (one : OneLine data) (rest : Str) :
    Transducer.run readLine {} (lines [] (write name data ++ rest)) =
      ((Transducer.run readLine {} (lines [] rest)).1,
        ⟨name.getD [], data⟩ :: (Transducer.run readLine {} (lines [] rest)).2) := by
  cases name with
  | none =>
    have text : write none data ++ rest = "data: ".toList ++ data ++ '\n' :: '\n' :: rest := by
      simp only [write, Option.map_none, Option.getD_none, List.nil_append, List.append_assoc,
        List.cons_append]
    rw [text]
    exact run_data one [] rest
  | some name =>
    have line : OneLine ("event: ".toList ++ name) :=
      (by decide : OneLine "event: ".toList).append (named name rfl)
    have text : write (some name) data ++ rest = "event: ".toList ++ name ++
        '\n' :: ("data: ".toList ++ data ++ '\n' :: '\n' :: rest) := by
      simp only [write, Option.map_some, Option.getD_some, List.nil_append, List.append_assoc,
        List.cons_append]
    rw [text, lines_line line, List.nil_append, Transducer.run, readLine_event]
    simp only [run_data one, List.nil_append, Option.getD_some]

/-- Written events are read back, in order and each once. -/
theorem parse_write {events : List (Option Str × Str)}
    (one : ∀ event ∈ events, (∀ name ∈ event.1, OneLine name) ∧ OneLine event.2) :
    parse (events.flatMap fun event => write event.1 event.2) =
      events.map fun event => ⟨event.1.getD [], event.2⟩ := by
  have marked : removePrefix ['\ufeff'] (events.flatMap fun event => write event.1 event.2) =
      events.flatMap fun event => write event.1 event.2 := by
    rcases events with _ | ⟨⟨_ | name, data⟩, rest⟩
    · rfl
    · rfl
    · rfl
  rw [parse, marked]
  clear marked
  induction events with
  | nil => rfl
  | cons event rest ih =>
    obtain ⟨named, data⟩ := one event (.head _)
    rw [List.flatMap_cons, run_write named data, ih fun e member => one e (.tail _ member)]
    rfl

end EventStream
